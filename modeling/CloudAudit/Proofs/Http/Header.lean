import CloudAudit.Http.Request
import CloudAudit.Proofs.Text.Hexadecimal

/-! Headers by name. The first header of a name is the one that counts, and its value is a text when
all of its bytes are visible. -/
namespace CloudAudit.Http

def IsFirstHeader (headers : List Header) (name : String) (value : ByteArray) : Prop :=
  ∃ before spelling after, headers = before ++ ⟨spelling, value⟩ :: after ∧
    spelling.toLower = name ∧ ∀ header ∈ before, header.name.toLower ≠ name

structure IsVisibleText (text : String) (value : ByteArray) : Prop where
  visible : ∀ byte ∈ value.data.toList, byte = 0x09 ∨ 0x20 ≤ byte ∧ byte ≤ 0x7E
  codes : text.toList.map Char.toNat = value.data.toList.map UInt8.toNat

theorem toLower_eq_iff (spelling name : String) :
    spelling.toLower = name ↔ spelling.toList.map Char.toLower = name.toList := by
  have lower : spelling.toLower = spelling.map Char.toLower := rfl
  rw [lower, ← String.toList_inj, String.toList_map]

theorem firstHeader?_eq_some_iff {headers : List Header} {name : String} {value : ByteArray} :
    firstHeader? headers name = some value ↔ IsFirstHeader headers name value := by
  rw [firstHeader?, Option.map_eq_some_iff]
  simp only [List.find?_eq_some_iff_append, IsFirstHeader, ne_eq, toLower_eq_iff]
  constructor
  · rintro ⟨⟨spelling, bytes⟩, ⟨here, before, after, cut, none⟩, rfl⟩
    exact ⟨before, spelling, after, cut, by simpa using here, by simpa using none⟩
  · rintro ⟨before, spelling, after, cut, here, none⟩
    exact ⟨⟨spelling, value⟩, ⟨by simpa using here, before, after, cut, by simpa using none⟩, rfl⟩

theorem firstHeader?_eq_none_iff {headers : List Header} {name : String} :
    firstHeader? headers name = none ↔ ∀ header ∈ headers, header.name.toLower ≠ name := by
  rw [firstHeader?, Option.map_eq_none_iff, List.find?_eq_none]
  simp only [decide_eq_true_eq, ne_eq, toLower_eq_iff]

def SameFirst (headers others : List Header) (name : String) : Prop :=
  ∀ value, IsFirstHeader others name value ↔ IsFirstHeader headers name value

theorem sameFirst_iff {headers others : List Header} {name : String} :
    SameFirst headers others name ↔ firstHeader? others name = firstHeader? headers name := by
  simp only [SameFirst, ← firstHeader?_eq_some_iff]
  exact ⟨fun same => Option.ext same, fun same value => by rw [same]⟩

theorem isVisible_iff (byte : UInt8) :
    isVisible byte = true ↔ byte = 0x09 ∨ 0x20 ≤ byte ∧ byte ≤ 0x7E := by
  simp [isVisible]

theorem toNat_ofNat_byte (byte : UInt8) : (Char.ofNat byte.toNat).toNat = byte.toNat := by
  apply Text.toNat_ofNat
  have bound := byte.toNat_lt
  simp only [Nat.isValidChar]
  omega

theorem headerText?_eq_some_iff {value : ByteArray} {text : String} :
    headerText? value = some text ↔ IsVisibleText text value := by
  have codes : (value.data.toList.map fun byte => Char.ofNat byte.toNat).map Char.toNat =
      value.data.toList.map UInt8.toNat := by
    rw [List.map_map]
    exact List.map_congr_left fun byte _ => toNat_ofNat_byte byte
  rw [headerText?]
  split
  case isTrue all =>
    have visible : ∀ byte ∈ value.data.toList, byte = 0x09 ∨ 0x20 ≤ byte ∧ byte ≤ 0x7E :=
      fun byte member => (isVisible_iff byte).1 (List.all_eq_true.1 all byte member)
    constructor
    · rintro ⟨rfl⟩
      exact ⟨visible, by rw [String.toList_ofList, codes]⟩
    · intro same
      have chars := same.codes.trans codes.symm
      rw [← (List.map_inj_right fun _ _ => Char.toNat_inj.1).1 chars, String.ofList_toList]
  case isFalse notAll =>
    refine ⟨nofun, fun same => absurd (List.all_eq_true.2 fun byte member => ?_) notAll⟩
    exact (isVisible_iff byte).2 (same.visible byte member)

theorem headerText?_of_hidden {value : ByteArray}
    (hidden : ∃ byte ∈ value.data.toList, byte ≠ 0x09 ∧ ¬ (0x20 ≤ byte ∧ byte ≤ 0x7E)) :
    headerText? value = none := by
  obtain ⟨byte, member, noTab, noMark⟩ := hidden
  rw [Option.eq_none_iff_forall_ne_some]
  intro text read
  rcases (headerText?_eq_some_iff.1 read).visible byte member with tab | mark
  · exact noTab tab
  · exact noMark mark

end CloudAudit.Http
