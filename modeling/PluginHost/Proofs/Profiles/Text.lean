import PluginHost.Profiles.Text
import PluginHost.Proofs.Profiles.Members

/-!
# Reading the text of a set of profiles

A text is cut at its separators. Of its parts a name stands for a profile of the host, a
hexadecimal number for the profiles of its bits, and the word `any` for none; the text stands for
all of them together. Read in this way, the text of every set gives the set back: no part has a
blank in it, no number is spelled like a name, and the parts of a set leave no member out.
-/
namespace PluginHost

/-! ## Hexadecimal numbers -/

namespace Numeric

theorem digitBelow?_digitChar {value : Nat} (h : value < 16) :
    digitBelow? 16 (digitChar value) = some value := by
  rw [digitBelow?, digitValue?_digitChar h, Option.filter_some, if_pos (decide_eq_true h)]

theorem valueFrom?_concat (base acc : Nat) (digits : List Char) (c : Char) :
    valueFrom? base acc (digits ++ [c]) = (valueFrom? base acc digits).bind fun value =>
      (digitBelow? base c).map (value * base + ·) := by
  induction digits generalizing acc with
  | nil => cases h : digitBelow? base c <;> simp [valueFrom?, h]
  | cons digit digits ih => cases h : digitBelow? base digit <;> simp [valueFrom?, h, ih]

theorem valueFrom?_hexDigits (n : Nat) : valueFrom? 16 0 (hexDigits n) = some n := by
  induction n using hexDigits.induct with
  | case1 n hshort =>
    rw [hexDigits, if_pos hshort]
    simp [valueFrom?, digitBelow?_digitChar hshort]
  | case2 n hlong ih =>
    have hlast : n % 16 < 16 := Nat.mod_lt n (by decide)
    rw [hexDigits, if_neg hlong, valueFrom?_concat, ih, digitBelow?_digitChar hlast]
    exact congrArg some (Nat.div_add_mod' n 16)

theorem ofDigits?_hexDigits (n : Nat) : ofDigits? 16 (hexDigits n) = some n := by
  have hne : (hexDigits n).isEmpty = false := List.isEmpty_eq_false_iff.mpr (hexDigits_ne_nil n)
  rw [ofDigits?, hne]
  exact valueFrom?_hexDigits n

theorem digitChar_ne_blank : ∀ value < 16, digitChar value ≠ ' ' := by decide

theorem blank_notMem_hexDigits (n : Nat) : ' ' ∉ hexDigits n := by
  induction n using hexDigits.induct with
  | case1 n hshort =>
    rw [hexDigits, if_pos hshort, List.mem_singleton]
    exact (digitChar_ne_blank n hshort).symm
  | case2 n hlong ih =>
    rw [hexDigits, if_neg hlong, List.mem_append, List.mem_singleton, not_or]
    exact ⟨ih, (digitChar_ne_blank _ (Nat.mod_lt n (by decide))).symm⟩

end Numeric

namespace ProfileSet

/-! ## Parts between separators -/

/-- The parts of a text between its separators. -/
def splitParts : List Char → List (List Char)
  | [] => [[]]
  | ' ' :: '|' :: ' ' :: rest => [] :: splitParts rest
  | c :: rest => (splitParts rest).modifyHead (c :: ·)

theorem splitParts_cons_of_ne {c : Char} (h : c ≠ ' ') (rest : List Char) :
    splitParts (c :: rest) = (splitParts rest).modifyHead (c :: ·) := by
  rw [splitParts]
  rintro _ rfl -
  exact h rfl

/-- No separator begins in a part without blanks, so what follows decides where the part ends. -/
theorem splitParts_append {part : List Char} (h : ' ' ∉ part) (rest : List Char) :
    splitParts (part ++ rest) = (splitParts rest).modifyHead (part ++ ·) := by
  induction part with
  | nil => exact (congrFun List.modifyHead_id _).symm
  | cons c part ih =>
    obtain ⟨hc, hpart⟩ := not_or.mp (mt List.mem_cons.mpr h)
    rw [List.cons_append, splitParts_cons_of_ne (Ne.symm hc), ih hpart, List.modifyHead_modifyHead]
    rfl

theorem splitParts_separator_append (rest : List Char) :
    splitParts (separator.toList ++ rest) = [] :: splitParts rest := rfl

/-- What was joined is cut at the same places. -/
theorem splitParts_intercalate {parts : List (List Char)} (hne : parts ≠ [])
    (h : ∀ part ∈ parts, ' ' ∉ part) :
    splitParts (separator.toList.intercalate parts) = parts := by
  induction parts with
  | nil => exact absurd rfl hne
  | cons part parts ih =>
    obtain ⟨hpart, hparts⟩ := List.forall_mem_cons.mp h
    cases parts with
    | nil =>
      have hlast := splitParts_append hpart []
      rw [List.append_nil, splitParts, List.modifyHead_cons, List.append_nil] at hlast
      rw [List.intercalate_singleton, hlast]
    | cons next parts =>
      rw [List.intercalate_cons_cons, List.append_assoc, splitParts_append hpart,
        splitParts_separator_append, ih (List.cons_ne_nil _ _) hparts, List.modifyHead_cons,
        List.append_nil]

/-! ## The set that a text stands for -/

/-- What one part of a text stands for. A number has no more bits than there are profiles. -/
def readPart? : List Char → Option ProfileSet
  | '0' :: 'x' :: digits =>
    ((Numeric.ofDigits? 16 digits).filter (· < UInt32.size)).map fun value =>
      ⟨UInt32.ofNat value⟩
  | part =>
    if part = anyText.toList then some any
    else (HostProfile.all.find? fun profile => profile.name.toList == part).map HostProfile.toSet

/-- The set that a text stands for, or `none` where one of its parts stands for nothing. -/
def ofText? (text : String) : Option ProfileSet :=
  ((splitParts text.toList).mapM readPart?).map unionAll

theorem readPart?_name (profile : HostProfile) :
    readPart? profile.name.toList = some profile.toSet := by
  cases profile <;> decide

theorem toList_hexText (set : ProfileSet) :
    set.hexText.toList = '0' :: 'x' :: Numeric.hexDigits set.mask.toNat := by
  rw [hexText, String.toList_append]
  exact congrArg ("0x".toList ++ ·) String.toList_ofList

theorem readPart?_hexText (set : ProfileSet) : readPart? set.hexText.toList = some set := by
  have hword : set.mask.toNat < UInt32.size := set.mask.toNat_lt
  rw [toList_hexText, readPart?, Numeric.ofDigits?_hexDigits, Option.filter_some,
    if_pos (decide_eq_true hword), Option.map_some, UInt32.ofNat_toNat]

/-! ## Texts of sets -/

section Texts

variable (a : ProfileSet)

theorem blank_notMem_textParts : ∀ part ∈ a.textParts, ' ' ∉ part.toList := by
  intro part hpart
  rw [textParts, List.mem_append, List.mem_map] at hpart
  rcases hpart with ⟨profile, -, rfl⟩ | hrest
  · cases profile <;> decide
  · split at hrest
    · exact absurd hrest List.not_mem_nil
    · rw [List.mem_singleton.mp hrest, toList_hexText]
      simp [Numeric.blank_notMem_hexDigits]

/-- Every part of the text stands for the part of the set that it was written for. -/
theorem mapM_readPart?_textParts :
    (a.textParts.map String.toList).mapM readPart? = some a.parts := by
  have hnames : readPart? ∘ String.toList ∘ HostProfile.name =
      fun profile => pure profile.toSet := funext readPart?_name
  rw [textParts, parts, List.map_append, List.map_map, List.mapM_append, List.mapM_map, hnames,
    List.mapM_pure]
  cases a.pluginMembers.isEmpty with
  | true => rfl
  | false => simp [readPart?_hexText]

theorem textParts_ne_nil (h : a.isEmpty = false) : a.textParts ≠ [] := by
  intro hnil
  have hparts := a.mapM_readPart?_textParts
  rw [hnil] at hparts
  -- a set without parts has no members
  have hany : a = any := by
    rw [← a.unionAll_parts, ← Option.some.inj hparts]
    rfl
  rw [hany] at h
  cases h

theorem ofText?_text : ofText? a.text = some a := by
  cases hempty : a.isEmpty with
  | true =>
    rw [eq_any_of_isEmpty hempty]
    decide
  | false =>
    have hsplit : splitParts a.text.toList = a.textParts.map String.toList := by
      rw [text, hempty, if_neg Bool.false_ne_true, String.toList_intercalate]
      refine splitParts_intercalate (mt List.map_eq_nil_iff.mp (a.textParts_ne_nil hempty)) ?_
      exact List.forall_mem_map.mpr a.blank_notMem_textParts
    rw [ofText?, hsplit, mapM_readPart?_textParts, Option.map_some, unionAll_parts]

end Texts

/-- The text of a set tells all of it, so sets with different members have different texts. -/
theorem text_lossless (a b : UInt32) :
    (text ⟨a⟩ = text ⟨b⟩ ↔ a = b) ∧ ofText? (text ⟨a⟩) = some ⟨a⟩ := by
  refine ⟨⟨fun h => ?_, congrArg fun mask => text ⟨mask⟩⟩, ofText?_text ⟨a⟩⟩
  have hread := congrArg ofText? h
  rw [ofText?_text, ofText?_text] at hread
  exact congrArg mask (Option.some.inj hread)

/-- Members with a name and without one, and texts that are none of a set. -/
example : text ⟨0x10A⟩ = "INTERACTIVE | SERVER | 0x100" ∧
    ofText? "INTERACTIVE | SERVER | 0x100" = some ⟨0x10A⟩ ∧
    ofText? "INTERACTIVE|SERVER" = none ∧ ofText? "0x100000000" = none := by
  decide +kernel

end ProfileSet

end PluginHost
