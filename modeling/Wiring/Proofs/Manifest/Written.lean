import Wiring.Proofs.Manifest.Contents

/-!
  Writing declarations and reading them back.

  `Json.ReadsBack` says that a reader undoes a writer on all values.  It passes from elements to
  lists, and to values that may be left out, so that each record needs to be looked at only once.
  Names are read back because their texts are in canonical spelling; expressions and markers are
  written as they are spelled, canonical or not.

  What a written record says is said in the terms of `Json.Holds` and `Json.Declares`, which know
  nothing of writers.

  Main statement: `Module.writing_keeps_declarations`.
-/

namespace Wiring

/-! ## Readers that undo writers -/

/-- A reader gives back every value from what a writer makes of it. -/
def Json.ReadsBack {α : Type} (read : Json → Shaped α) (write : α → Json) : Prop :=
  ∀ a, read (write a) = .ok a

namespace Json.ReadsBack

variable {α : Type} {read : Json → Shaped α} {write : α → Json}

theorem string : ReadsBack asString .string := fun _ => rfl

theorem list (h : ReadsBack read write) :
    ReadsBack (·.asList read) fun l => .array (l.map write) := by
  intro l
  refine asList_eq_ok_iff.2 ⟨l.map write, rfl, ?_⟩
  rw [List.forall₂_map_left_iff, List.forall₂_same]
  exact fun a _ => h a

/-- A value that may be left out is read back where it is not, if it is not written as null. -/
theorem option (h : ReadsBack read write) (hnull : ∀ a, write a ≠ .null) (a : α) :
    (write a).asOption read = .ok (some a) := by
  rw [asOption_of_ne_null (hnull a), h a]
  rfl

/-- What has been read once stays the same when it is written and read again, and so does what is
written. -/
theorem again (h : ReadsBack read write) (a : α) :
    read (write a) = .ok a ∧ (read (write a)).map write = .ok (write a) := by
  rw [h a]
  exact ⟨rfl, rfl⟩

end Json.ReadsBack

/-- A name is read back, because its text is in canonical spelling. -/
theorem TypeName.readsBack : Json.ReadsBack ofJson toJson :=
  fun name => congrArg Except.ok (ofString_text name)

theorem MarkerSet.ofList_toList (s : MarkerSet) : Std.ExtTreeSet.ofList s.toList = s := by
  apply Std.ExtTreeSet.ext_mem
  simp

/-! ## Provisions -/

namespace Provision

/-- What a provision says, with its names in canonical spelling. -/
def entry (p : Provision) : Entry :=
  ⟨p.implementation.text, p.capability.text, p.expression, p.supertypes.map (·.map TypeName.text)⟩

theorem provision_entry (p : Provision) : p.entry.provision = p := by
  obtain ⟨implementation, capability, expression, supertypes⟩ := p
  cases expression <;> cases supertypes <;>
    simp [entry, Entry.provision, ofNames, qualifiedBy, implementing, Function.comp_def]

theorem holds_toJson (p : Provision) : p.toJson.Holds p.entry := by
  obtain ⟨implementation, capability, expression, supertypes⟩ := p
  cases expression <;> cases supertypes <;> constructor <;>
    simp [toJson, entry, Json.field?, Json.listed, List.lookup, Json.given?, TypeName.toJson]

/-- The fields of a written provision fill the draft, and what it does not declare stays open. -/
theorem read_toJson (p : Provision) : shape.read {} p.toJson =
    .ok ⟨some p.implementation, some p.capability, p.expression, p.supertypes⟩ := by
  obtain ⟨implementation, capability, expression, supertypes⟩ := p
  have hi := TypeName.readsBack implementation
  have hc := TypeName.readsBack capability
  have he := Json.ReadsBack.string.option (by simp)
  have hs := TypeName.readsBack.list.option (by simp)
  cases expression <;> cases supertypes <;>
    simp [toJson, shape, RecordShape.read, RecordShape.readMember, List.lookup, hi, hc, he, hs,
      Except.map, pure, Except.pure, bind, Except.bind]

theorem readsBack : Json.ReadsBack ofJson toJson := by
  intro p
  unfold ofJson
  rw [read_toJson]
  rfl

end Provision

/-! ## Modules -/

namespace Module
open Declaration

theorem readsBack : Json.ReadsBack ofJson toJson := by
  intro m
  have hp := Provision.readsBack.list m.provisions
  have hm := Json.ReadsBack.string.list m.markers.toList
  simp [ofJson, toJson, shape, RecordShape.read, RecordShape.readMember, List.lookup, hp, hm,
    Except.map, pure, Except.pure, bind, Except.bind, MarkerSet.ofList_toList]

theorem declares_toJson (m : Module) :
    m.toJson.Declares (declarations m.markers.toList (m.provisions.map Provision.entry)) := by
  constructor
  · rw [spellings_declarations]
    rfl
  · refine ⟨m.provisions.map Provision.toJson, rfl, ?_⟩
    rw [entries_declarations, List.forall₂_map_left_iff, List.forall₂_map_right_iff,
      List.forall₂_same]
    exact fun p _ => p.holds_toJson

/-- **Declarations survive writing.**  Every provision, whatever texts it is made of, and every
module, with markers in whatever spelling, is read back from what is written of it; and what is
written says just what the provision and the module declare, with what they leave open left out.
So a value that is read as a provision or as a module is read as the same one after it is written
again, and writing it once more changes nothing. -/
theorem writing_keeps_declarations :
    (∀ p : Provision,
      Provision.ofJson p.toJson = .ok p ∧ p.toJson.Holds p.entry ∧ p.entry.provision = p) ∧
    (∀ m : Module, ofJson m.toJson = .ok m ∧
      m.toJson.Declares (declarations m.markers.toList (m.provisions.map Provision.entry))) ∧
    (∀ v p, Provision.ofJson v = .ok p → Provision.ofJson p.toJson = .ok p ∧
      (Provision.ofJson p.toJson).map Provision.toJson = .ok p.toJson) ∧
    ∀ v m, ofJson v = .ok m → ofJson m.toJson = .ok m ∧
      (ofJson m.toJson).map toJson = .ok m.toJson := by
  refine ⟨?_, ?_, ?_, ?_⟩
  · exact fun p => ⟨Provision.readsBack p, p.holds_toJson, p.provision_entry⟩
  · exact fun m => ⟨readsBack m, m.declares_toJson⟩
  · exact fun _ p _ => Provision.readsBack.again p
  · exact fun _ m _ => readsBack.again m

/-- A manifest with a provision under a null qualifier and one under a blank expression, which lists
no supertype. -/
def blankAndNull : Json :=
  .object [("provisions", .array [
    .object [("capability", .string " a . Part"), ("implementation", .string "a.Door"),
      ("qualifier", .null)],
    .array [.string "a.Window", .string "a.Part", .string " ", .array []]]),
    ("qualifiers", .array [.string "a . Q"])]

/-- What is read from the manifest survives writing. -/
theorem writing_keeps_declarations_blankAndNull :
    ∃ m, ofJson blankAndNull = .ok m ∧ ofJson m.toJson = .ok m ∧
      (ofJson m.toJson).map toJson = .ok m.toJson := by
  obtain ⟨m, hm⟩ : ∃ m, ofJson blankAndNull = .ok m := ⟨_, rfl⟩
  obtain ⟨-, -, -, hagain⟩ := writing_keeps_declarations
  exact ⟨m, hm, hagain _ m hm⟩

end Module

end Wiring
