import Mathlib.Data.List.Basic
import SmartForm.Proofs.Pattern.Language
import SmartForm.Proofs.Text.Words
import SmartForm.Validation.Email

/-!
# The grammar of email addresses

What is accepted as an email address is a local part, an at sign and a domain, which is a row
of labels with single points between them (`SmartForm.Email.isEmail_iff`). A local part has up
to sixty-four characters and a label up to sixty-three.

The one thing to know is which at sign parts the address. The length of the local part is
measured up to the first one, before anything is matched, whereas the expression would take any
of them. It has no choice: neither a local part nor a label has an at sign in it, so that the
first is the only one. Since all of the characters are seven-bit ones, it makes no difference
either that the length is counted in bytes.

The expression is the one that the pattern is read as (`SmartForm.Email.shape?_eq`).
-/

namespace SmartForm

namespace Email

open Regex

/-! ### The expression -/

/-- The characters of a local part. -/
def localCodes : CodeSet :=
  [(33, 33), (35, 39), (42, 43), (45, 57), (61, 61), (63, 63), (65, 90), (94, 126)]

/-- The characters at the ends of a label. -/
def alnumCodes : CodeSet := [(48, 57), (65, 90), (97, 122)]

/-- The characters inside a label. -/
def labelCodes : CodeSet := [(45, 45), (48, 57), (65, 90), (97, 122)]

/-- The characters of a label behind the first one, if there are any. -/
def labelRest : Regex :=
  .rep 0 (some 1) (.cat (.rep 0 (some 61) (.chars labelCodes)) (.chars alnumCodes))

/-- A label of a domain. -/
def label : Regex := .cat (.chars alnumCodes) labelRest

/-- The further labels of a domain, each with a point in front of it. -/
def more : Regex := .rep 0 none (.cat (.chars [(46, 46)]) label)

/-- The whole expression, whose items stand side by side as in the pattern. -/
def shape : Regex :=
  .cat (.look .textStart)
    (.cat (.rep 1 none (.chars localCodes))
      (.cat (.chars [(64, 64)])
        (.cat (.chars alnumCodes) (.cat labelRest (.cat more (.look .textEnd))))))

/-- **The pattern is read as the expression.** -/
theorem shape?_eq : shape? = some shape := by decide +kernel

/-! ### The grammar -/

/-- What may stand in a local part besides letters and digits. -/
def localMarks : String := ".!#$%&'*+/=?^_`\x7b|\x7d~-"

/-- A local part. -/
structure IsLocal (cs : List Char) : Prop where
  /-- There is a character in it. -/
  ne_nil : cs ≠ []
  /-- It is not too long. -/
  length_le : cs.length ≤ 64
  /-- It consists of letters, digits and marks. -/
  chars : ∀ c ∈ cs, c.isAlphanum = true ∨ c ∈ localMarks.toList

/-- A label of a domain. -/
structure IsLabel (cs : List Char) : Prop where
  /-- There is a character in it. -/
  ne_nil : cs ≠ []
  /-- It is not too long. -/
  length_le : cs.length ≤ 63
  /-- It consists of letters, digits and hyphens. -/
  chars : ∀ c ∈ cs, c.isAlphanum = true ∨ c = '-'
  /-- It starts with no hyphen. -/
  head : cs.head? ≠ some '-'
  /-- It ends with no hyphen. -/
  last : cs.getLast? ≠ some '-'

/-- A row of labels with single points between them. -/
def IsDomain (cs : List Char) : Prop :=
  ∃ labels, labels ≠ [] ∧ (∀ l ∈ labels, IsLabel l) ∧ cs = ['.'].intercalate labels

/-! ### Characters -/

section Characters

variable {c : Char}

theorem isAlphanum_iff :
    c.isAlphanum = true ↔ (65 ≤ c.toNat ∧ c.toNat ≤ 90 ∨ 97 ≤ c.toNat ∧ c.toNat ≤ 122) ∨
      48 ≤ c.toNat ∧ c.toNat ≤ 57 := by
  have hupper : c.isUpper = true ↔ 65 ≤ c.toNat ∧ c.toNat ≤ 90 := decide_eq_true_iff
  have hlower : c.isLower = true ↔ 97 ≤ c.toNat ∧ c.toNat ≤ 122 :=
    Bool.and_eq_true_iff.trans (and_congr decide_eq_true_iff decide_eq_true_iff)
  have hparts : c.isAlphanum = (c.isUpper || c.isLower || c.isDigit) := rfl
  rw [hparts, Bool.or_eq_true, Bool.or_eq_true, hupper, hlower, Char.isDigit_iff_toNat]
  rfl

theorem mem_localMarks_iff :
    c ∈ localMarks.toList ↔
      c.toNat ∈ [46, 33, 35, 36, 37, 38, 39, 42, 43, 47, 61, 63, 94, 95, 96, 123, 124, 125, 126,
        45] := by
  have hcodes : localMarks.toList.map Char.toNat =
      [46, 33, 35, 36, 37, 38, 39, 42, 43, 47, 61, 63, 94, 95, 96, 123, 124, 125, 126, 45] := by
    decide
  rw [← hcodes, List.mem_map_of_injective fun _ _ => Char.toNat_inj.mp]

theorem hasChar_nil_iff : CodeSet.hasChar [] c = true ↔ False := iff_of_false nofun id

theorem hasChar_cons_iff {low high : Nat} {set : CodeSet} :
    CodeSet.hasChar ((low, high) :: set) c = true ↔
      low ≤ c.toNat ∧ c.toNat ≤ high ∨ set.hasChar c = true := by
  simp [CodeSet.hasChar, CodeSet.has]

theorem hasChar_alnumCodes_iff : alnumCodes.hasChar c = true ↔ c.isAlphanum = true := by
  rw [isAlphanum_iff]
  simp only [alnumCodes, hasChar_cons_iff, hasChar_nil_iff, or_false]
  omega

theorem hasChar_labelCodes_iff : labelCodes.hasChar c = true ↔ c.isAlphanum = true ∨ c = '-' := by
  rw [isAlphanum_iff, ← Char.toNat_inj]
  simp only [labelCodes, hasChar_cons_iff, hasChar_nil_iff, or_false, show '-'.toNat = 45 from rfl]
  omega

theorem hasChar_localCodes_iff :
    localCodes.hasChar c = true ↔ c.isAlphanum = true ∨ c ∈ localMarks.toList := by
  rw [isAlphanum_iff, mem_localMarks_iff]
  simp only [localCodes, hasChar_cons_iff, hasChar_nil_iff, or_false, List.mem_cons,
    List.not_mem_nil]
  omega

theorem hasChar_single_iff {d : Char} : CodeSet.hasChar [(d.toNat, d.toNat)] c = true ↔ c = d := by
  rw [← Char.toNat_inj, hasChar_cons_iff, hasChar_nil_iff, or_false]
  omega

end Characters

/-! ### Labels and domains -/

theorem ne_hyphen_of_isAlphanum {c : Char} (h : c.isAlphanum = true) : some c ≠ some '-' := by
  intro hc
  obtain rfl := Option.some.inj hc
  exact absurd h (by decide)

theorem isLabel_singleton {c : Char} (hc : c.isAlphanum = true) : IsLabel [c] where
  ne_nil := List.cons_ne_nil c []
  length_le := by simp
  chars := by simpa using Or.inl hc
  head := ne_hyphen_of_isAlphanum hc
  last := ne_hyphen_of_isAlphanum hc

/-- What a label of more than one character is made of. -/
theorem isLabel_ends_iff {c d : Char} {middle : List Char} :
    IsLabel (c :: (middle ++ [d])) ↔
      c.isAlphanum = true ∧ d.isAlphanum = true ∧ middle.length ≤ 61 ∧
        ∀ x ∈ middle, x.isAlphanum = true ∨ x = '-' := by
  have hlast : (c :: (middle ++ [d])).getLast? = some d := by
    rw [← List.cons_append, List.getLast?_concat]
  constructor
  · intro h
    have hc : c ∈ c :: (middle ++ [d]) := List.mem_cons_self
    have hd : d ∈ c :: (middle ++ [d]) := by simp
    refine ⟨(h.chars c hc).resolve_right fun hhyphen => h.head ?_,
      (h.chars d hd).resolve_right fun hhyphen => h.last ?_, ?_, fun x hx => h.chars x ?_⟩
    · rw [hhyphen, List.head?_cons]
    · rw [hlast, hhyphen]
    · have hlength := h.length_le
      simp only [List.length_cons, List.length_append, List.length_nil] at hlength
      omega
    · exact List.mem_cons_of_mem c (List.mem_append_left [d] hx)
  · rintro ⟨hc, hd, hlength, hmiddle⟩
    refine ⟨List.cons_ne_nil c _, ?_, fun x hx => ?_, ?_, ?_⟩
    · simp only [List.length_cons, List.length_append, List.length_nil]
      omega
    · rcases List.mem_cons.mp hx with rfl | hx
      · exact Or.inl hc
      · rcases List.mem_append.mp hx with hx | hx
        · exact hmiddle x hx
        · obtain rfl := List.mem_singleton.mp hx
          exact Or.inl hd
    · rw [List.head?_cons]
      exact ne_hyphen_of_isAlphanum hc
    · rw [hlast]
      exact ne_hyphen_of_isAlphanum hd

/-- **The expression of a label reads labels.** -/
theorem reads_label_iff {w : List Char} : label.Reads w ↔ IsLabel w := by
  constructor
  · rintro ⟨_, _, rfl, ⟨c, rfl, hc⟩, hrest⟩
    have hc := hasChar_alnumCodes_iff.mp hc
    rcases reads_optional_iff.mp hrest with rfl | ⟨middle, _, rfl, hmiddle, d, rfl, hd⟩
    · exact isLabel_singleton hc
    · obtain ⟨-, hlength, hchars⟩ := reads_rep_chars_iff.mp hmiddle
      exact isLabel_ends_iff.mpr ⟨hc, hasChar_alnumCodes_iff.mp hd,
        by simpa using hlength 61 rfl, fun x hx => hasChar_labelCodes_iff.mp (hchars x hx)⟩
  · intro h
    obtain ⟨c, rest, rfl⟩ := List.exists_cons_of_ne_nil h.ne_nil
    rcases List.eq_nil_or_concat rest with rfl | ⟨middle, d, rfl⟩
    · have hc := (h.chars c List.mem_cons_self).resolve_right fun hhyphen =>
        h.head (congrArg some hhyphen)
      exact ⟨[c], [], rfl, ⟨c, rfl, hasChar_alnumCodes_iff.mpr hc⟩,
        reads_optional_iff.mpr (Or.inl rfl)⟩
    · rw [List.concat_eq_append] at h ⊢
      obtain ⟨hc, hd, hlength, hchars⟩ := isLabel_ends_iff.mp h
      refine ⟨[c], middle ++ [d], rfl, ⟨c, rfl, hasChar_alnumCodes_iff.mpr hc⟩,
        reads_optional_iff.mpr (Or.inr ⟨middle, [d], rfl, ?_, d, rfl,
          hasChar_alnumCodes_iff.mpr hd⟩)⟩
      refine reads_rep_chars_iff.mpr ⟨Nat.zero_le _, fun m hm => ?_, fun x hx =>
        hasChar_labelCodes_iff.mpr (hchars x hx)⟩
      obtain rfl := Option.some.inj hm
      simpa using hlength

theorem reads_more_iff {w : List Char} :
    more.Reads w ↔ ∃ labels : List (List Char), (∀ l ∈ labels, IsLabel l) ∧
      w = labels.flatMap ('.' :: ·) := by
  rw [more, reads_star_iff]
  constructor
  · rintro ⟨ws, rfl, hws⟩
    induction ws with
    | nil => exact ⟨[], by simp⟩
    | cons u ws ih =>
      obtain ⟨⟨_, l, rfl, ⟨c, rfl, hc⟩, hl⟩, hrest⟩ := List.forall_mem_cons.mp hws
      obtain ⟨labels, hlabels, hflat⟩ := ih hrest
      obtain rfl := hasChar_single_iff (d := '.') |>.mp hc
      exact ⟨l :: labels, List.forall_mem_cons.mpr ⟨reads_label_iff.mp hl, hlabels⟩,
        by rw [List.flatten_cons, hflat, List.flatMap_cons, List.singleton_append]⟩
  · rintro ⟨labels, hlabels, rfl⟩
    refine ⟨labels.map ('.' :: ·), by rw [List.flatMap_def], fun u hu => ?_⟩
    obtain ⟨l, hl, rfl⟩ := List.mem_map.mp hu
    exact ⟨['.'], l, rfl, ⟨'.', rfl, by decide⟩, reads_label_iff.mpr (hlabels l hl)⟩

theorem intercalate_cons (l : List Char) (labels : List (List Char)) :
    ['.'].intercalate (l :: labels) = l ++ labels.flatMap ('.' :: ·) := by
  induction labels generalizing l with
  | nil => rw [List.intercalate_singleton, List.flatMap_nil, List.append_nil]
  | cons m labels ih =>
    rw [List.intercalate_cons_cons, ih, List.flatMap_cons, List.append_assoc,
      List.singleton_append, List.cons_append]

/-- **A label and further ones are a domain.** -/
theorem reads_domain_iff {w : List Char} : (cat label more).Reads w ↔ IsDomain w := by
  constructor
  · rintro ⟨l, _, rfl, hl, hmore⟩
    obtain ⟨labels, hlabels, rfl⟩ := reads_more_iff.mp hmore
    exact ⟨l :: labels, List.cons_ne_nil l labels,
      List.forall_mem_cons.mpr ⟨reads_label_iff.mp hl, hlabels⟩, (intercalate_cons l labels).symm⟩
  · rintro ⟨labels, hne, hlabels, rfl⟩
    obtain ⟨l, labels, rfl⟩ := List.exists_cons_of_ne_nil hne
    obtain ⟨hl, hlabels⟩ := List.forall_mem_cons.mp hlabels
    exact ⟨l, labels.flatMap ('.' :: ·), intercalate_cons l labels, reads_label_iff.mpr hl,
      reads_more_iff.mpr ⟨labels, hlabels, rfl⟩⟩

/-! ### The whole address -/

/-- The shape without its anchors. -/
def address : Regex :=
  .cat (.rep 1 none (.chars localCodes)) (.cat (.chars [(64, 64)]) (.cat label more))

/-- The anchors of the shape stand around the address, however it is put together. -/
theorem isMatch_shape_iff (s : String) : shape.isMatch s = true ↔ address.Reads s.toList := by
  have hfree : address.LookFree := by simp [address, more, label, labelRest, LookFree]
  rw [← matchesWhole_iff_reads hfree, ← isMatch_anchored_iff]
  refine isMatch_congr (fun text i j => matches_cat_congr fun i j => ?_) s
  -- The end comes behind the local part, the at sign and the labels, one after the other.
  have hlabels : ∀ i j, (cat (cat label more) (look .textEnd)).Matches text i j ↔
      (cat (.chars alnumCodes) (cat labelRest (cat more (look .textEnd)))).Matches text i j :=
    fun i j => matches_cat_assoc.trans matches_cat_assoc
  exact (matches_cat_assoc.trans (matches_cat_congr fun i j =>
    matches_cat_assoc.trans (matches_cat_congr hlabels))).symm

theorem reads_address_iff {w : List Char} :
    address.Reads w ↔ ∃ name domain, w = name ++ '@' :: domain ∧ name ≠ [] ∧
      (∀ c ∈ name, c.isAlphanum = true ∨ c ∈ localMarks.toList) ∧ IsDomain domain := by
  constructor
  · rintro ⟨name, _, rfl, hname, _, domain, rfl, ⟨c, rfl, hc⟩, hdomain⟩
    obtain ⟨hlength, -, hchars⟩ := reads_rep_chars_iff.mp hname
    obtain rfl := hasChar_single_iff (d := '@') |>.mp hc
    exact ⟨name, domain, rfl, List.length_pos_iff.mp hlength,
      fun c hc => hasChar_localCodes_iff.mp (hchars c hc), reads_domain_iff.mp hdomain⟩
  · rintro ⟨name, domain, rfl, hne, hchars, hdomain⟩
    refine ⟨name, '@' :: domain, rfl, reads_rep_chars_iff.mpr ⟨List.length_pos_iff.mpr hne,
      fun m hm => (Option.not_mem_none m hm).elim, fun c hc =>
        hasChar_localCodes_iff.mpr (hchars c hc)⟩, ?_⟩
    exact ⟨['@'], domain, rfl, ⟨'@', rfl, by decide⟩, reads_domain_iff.mpr hdomain⟩

/-! ### Lengths -/

/-- A character of a local part is a seven-bit one, and is no at sign. -/
theorem bounds_of_localChar {c : Char} (h : c.isAlphanum = true ∨ c ∈ localMarks.toList) :
    c.toNat < 128 ∧ c ≠ '@' := by
  rw [isAlphanum_iff, mem_localMarks_iff] at h
  rw [ne_eq, ← Char.toNat_inj]
  simp only [List.mem_cons, List.not_mem_nil, or_false, show '@'.toNat = 64 from rfl] at h ⊢
  omega

theorem utf8ByteSize_ofList {cs : List Char} (h : ∀ c ∈ cs, c.toNat < 128) :
    (String.ofList cs).utf8ByteSize = cs.length := by
  induction cs with
  | nil => rfl
  | cons c cs ih =>
    obtain ⟨hc, hcs⟩ := List.forall_mem_cons.mp h
    have hone : c.utf8Size = 1 := by
      rw [Char.utf8Size_eq_one_iff, UInt32.le_iff_toNat_le]
      exact Nat.le_of_lt_succ hc
    rw [String.ofList_cons, String.utf8ByteSize_append, ih hcs, String.utf8ByteSize_singleton,
      hone, List.length_cons, Nat.add_comm]

/-- The lengths are checked beside the shape, that of the local part up to the first at
sign. -/
theorem isEmail_iff_reads (s : String) :
    isEmail s = true ↔
      s.utf8ByteSize ≤ 254 ∧ '@' ∈ s.toList ∧
        (String.ofList (s.toList.takeWhile (· ≠ '@'))).utf8ByteSize ≤ 64 ∧
        address.Reads s.toList := by
  rw [isEmail, ← isMatch_shape_iff]
  by_cases hlong : maxLength < s.utf8ByteSize
  · rw [if_pos hlong]
    exact iff_of_false Bool.false_ne_true fun h => Nat.not_lt.mpr h.1 hlong
  · have hshort : s.utf8ByteSize ≤ 254 := Nat.not_lt.mp hlong
    rw [if_neg hlong]
    simp [hshort, localMaxLength, shape?_eq, and_assoc]

/-- **What is an email address**: a text of at most two hundred and fifty-four bytes that is a
local part, an at sign, and a row of labels with single points between them. -/
theorem isEmail_iff (s : String) :
    isEmail s = true ↔
      s.utf8ByteSize ≤ 254 ∧
        ∃ name domain, s.toList = name ++ '@' :: domain ∧ IsLocal name ∧ IsDomain domain := by
  rw [isEmail_iff_reads, reads_address_iff]
  refine and_congr_right fun _ => ?_
  have hfirst : ∀ name domain, s.toList = name ++ '@' :: domain →
      (∀ c ∈ name, c.isAlphanum = true ∨ c ∈ localMarks.toList) →
        (String.ofList (s.toList.takeWhile (· ≠ '@'))).utf8ByteSize = name.length := by
    intro name domain hs hchars
    have hname : ∀ c ∈ name, c.toNat < 128 ∧ c ≠ '@' := fun c hc =>
      bounds_of_localChar (hchars c hc)
    rw [hs, Text.takeWhile_ne fun c hc => (hname c hc).2,
      utf8ByteSize_ofList fun c hc => (hname c hc).1]
  constructor
  · rintro ⟨-, hlength, name, domain, hs, hne, hchars, hdomain⟩
    rw [hfirst name domain hs hchars] at hlength
    exact ⟨name, domain, hs, ⟨hne, hlength, hchars⟩, hdomain⟩
  · rintro ⟨name, domain, hs, hlocal, hdomain⟩
    refine ⟨by rw [hs]; simp, ?_, name, domain, hs, hlocal.ne_nil, hlocal.chars, hdomain⟩
    rw [hfirst name domain hs hlocal.chars]
    exact hlocal.length_le

end Email

end SmartForm
