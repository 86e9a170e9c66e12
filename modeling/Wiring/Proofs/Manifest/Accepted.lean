import Wiring.Proofs.Manifest.Contents

/-!
  Which values are manifests.

  `Json.IsManifest` and `Json.IsEntry` describe the shape of a manifest and of its entries, each
  written as an object or as an array.  The two differ in what they forgive: a manifest has no other
  members than its two fields and neither of them is null, while an entry may have any other members
  and its two optional fields may be null.

  Every value of this shape is read, and no other is.  What is read is determined by what the
  manifest declares, so two spellings of the same fields are read as one module.

  Main statement: `Module.reads_exactly_the_manifests`.
-/

namespace Wiring

/-! ## The declared shape -/

namespace Json

/-- The values that the members of an entry may have.  Members that are no fields may have any. -/
def EntryMember (name : String) (value : Json) : Prop :=
  match name with
  | "implementation" => value.IsText
  | "capability" => value.IsText
  | "qualifier" => value = .null ∨ value.IsText
  | "supertypes" => value = .null ∨ value.IsArrayOf IsText
  | _ => True

/-- An entry: an object that gives an implementation and a capability, or an array of two to four
elements. -/
def IsEntry : Json → Prop := IsRecord entryFields 2 EntryMember

/-- The values that the members of a manifest may have.  It has no members that are no fields. -/
def ManifestMember (name : String) (value : Json) : Prop :=
  match name with
  | "qualifiers" => value.IsArrayOf IsText
  | "provisions" => value.IsArrayOf IsEntry
  | _ => False

/-- A manifest: an object that gives any of the two fields, or an array of at most two elements. -/
def IsManifest : Json → Prop := IsRecord moduleFields 0 ManifestMember

end Json

/-- A provision says what an entry says, with names in canonical spelling and with the expression as
it is given. -/
structure Entry.Makes (e : Entry) (p : Provision) : Prop where
  implementation : p.implementation.text = canonicalSpelling e.implementation
  capability : p.capability.text = canonicalSpelling e.capability
  expression : p.expression = e.expression
  supertypes : p.supertypes.map (·.map TypeName.text) = e.supertypes.map (·.map canonicalSpelling)

/-! ## Reading the parts -/

theorem TypeName.accepts : Json.Accepts ofJson Json.IsText := Json.Accepts.string.map ofString

namespace Provision
open RecordShape

theorem takes_shape : shape.Takes Json.EntryMember := by
  intro draft name j
  unfold Json.EntryMember
  split
  · exact TypeName.accepts.map _ j
  · exact TypeName.accepts.map _ j
  · exact Json.Accepts.string.option.map _ j
  · exact TypeName.accepts.list.option.map _ j
  · rename_i himplementation hcapability hqualifier hsupertypes
    have hother : name ∉ entryFields := by
      simp only [entryFields, List.mem_cons, List.not_mem_nil, or_false, not_or]
      exact ⟨himplementation, hcapability, hqualifier, hsupertypes⟩
    rw [exists_readMember_iff_of_notMem hother]
    exact iff_of_true rfl trivial

theorem exists_finish_iff {d : ProvisionDraft} :
    (∃ p, d.finish = .ok p) ↔ d.implementation.isSome = true ∧ d.capability.isSome = true := by
  obtain ⟨implementation, capability, expression, supertypes⟩ := d
  cases implementation <;> cases capability <;> simp [ProvisionDraft.finish]

/-- **The entries are read as provisions, and no other values.** -/
theorem accepts : Json.Accepts ofJson Json.IsEntry := by
  intro j
  have hrecord := takes_shape.exists_read_iff distinct_shape {} j
  change j.IsEntry ↔ _ at hrecord
  rw [hrecord]
  unfold ofJson
  cases hread : shape.read {} j with
  | error e => simp [Except.bind]
  | ok d =>
    have hneeded : (shape.fields.map (·.1)).take shape.required =
        ["implementation", "capability"] := rfl
    have hi := isSome_of_settles (fills_implementation.settles distinct_shape hread)
    have hc := isSome_of_settles (fills_capability.settles distinct_shape hread)
    simp [Except.bind, exists_finish_iff, hneeded, hi, hc]

end Provision

theorem Entry.makes_provision (e : Entry) : e.Makes e.provision := by
  obtain ⟨implementation, capability, expression, supertypes⟩ := e
  cases expression <;> cases supertypes <;> constructor <;>
    simp [provision, Provision.ofNames, Provision.qualifiedBy, Provision.implementing,
      TypeName.ofString]

/-! ## Reading a module -/

namespace Module
open RecordShape Declaration

theorem takes_shape : shape.Takes Json.ManifestMember := by
  intro draft name j
  unfold Json.ManifestMember
  split
  · exact Json.Accepts.string.list.map _ j
  · exact Provision.accepts.list.map _ j
  · rename_i hqualifiers hprovisions
    have hother : name ∉ moduleFields := by
      simp only [moduleFields, List.mem_cons, List.not_mem_nil, or_false, not_or]
      exact ⟨hqualifiers, hprovisions⟩
    rw [exists_readMember_iff_of_notMem hother]
    exact iff_of_false Bool.false_ne_true id

/-- **The manifests are read as modules, and no other values.** -/
theorem accepts : Json.Accepts ofJson Json.IsManifest := by
  intro v
  have hrecord := takes_shape.exists_read_iff distinct_shape {} v
  change v.IsManifest ↔ _ at hrecord
  rw [hrecord]
  simp [ofJson, shape]

/-- What is read as a module is determined by any declarations that the manifest makes. -/
theorem eq_of_ofJson {v : Json} {m : Module} (h : ofJson v = .ok m) {ds : List Declaration}
    (hds : v.Declares ds) :
    m = ⟨.ofList (spellings ds), (entries ds).map Entry.provision⟩ := by
  obtain ⟨read, hread, hmarkers, hprovisions⟩ := exists_declares h
  obtain ⟨hspellings, hentries⟩ := eq_of_declares hread hds
  cases m
  rw [← hspellings, ← hentries, ← hmarkers, ← hprovisions]

/-- **Exactly the manifests are read, and as what they declare.**  A value is read as a module if
and only if it is a manifest.  The module has the markers that the manifest gives, as they are
spelled there, and it has one provision for each entry in their order, with names in canonical
spelling and with the expression as it is given.  Two manifests that declare the same are read as
the same module, even if one is written with objects and the other with arrays. -/
theorem reads_exactly_the_manifests :
    (∀ v, (∃ m, ofJson v = .ok m) ↔ v.IsManifest) ∧
    (∀ v m, ofJson v = .ok m → (∃ ds, v.Declares ds) ∧ ∀ ds, v.Declares ds →
      (∀ marker, marker ∈ m.markers ↔ marker ∈ spellings ds) ∧
      List.Forall₂ Entry.Makes (entries ds) m.provisions) ∧
    ∀ v v' ds, v.IsManifest → v'.IsManifest → v.Declares ds → v'.Declares ds →
      ∃ m, ofJson v = .ok m ∧ ofJson v' = .ok m := by
  refine ⟨accepts, ?_, ?_⟩
  · intro v m hread
    obtain ⟨declared, hdeclared, -, -⟩ := exists_declares hread
    refine ⟨⟨declared, hdeclared⟩, ?_⟩
    intro ds hds
    rw [eq_of_ofJson hread hds]
    constructor
    · intro marker
      simp
    · rw [List.forall₂_map_right_iff, List.forall₂_same]
      intro e _
      exact e.makes_provision
  · intro v v' ds hv hv' hds hds'
    obtain ⟨m, hm⟩ := (accepts v).2 hv
    obtain ⟨m', hm'⟩ := (accepts v').2 hv'
    have hsame : m = m' := (eq_of_ofJson hm hds).trans (eq_of_ofJson hm' hds').symm
    exact ⟨m, hm, hsame ▸ hm'⟩

/-- A manifest written with objects, with a member that is no field and with a null. -/
def doorByName : Json :=
  .object [("provisions", .array [.object [("note", .bool true),
    ("capability", .string "a.Part"), ("implementation", .string " a . Door"),
    ("qualifier", .null)]]), ("qualifiers", .array [.string "a . Q"])]

/-- The same fields written with arrays. -/
def doorByPlace : Json :=
  .array [.array [.string "a . Q"], .array [.array [.string " a . Door", .string "a.Part"]]]

/-- What both of them declare. -/
def doorDeclarations : List Declaration :=
  [.marker "a . Q", .provision ⟨" a . Door", "a.Part", none, none⟩]

/-- Both are read as one module, and a manifest whose provisions are null is refused. -/
theorem reads_exactly_the_manifests_door :
    (∃ m, ofJson doorByName = .ok m ∧ ofJson doorByPlace = .ok m) ∧
      ¬ (Json.object [("provisions", .null)]).IsManifest := by
  obtain ⟨hiff, -, hsame⟩ := reads_exactly_the_manifests
  have hname : doorByName.Declares doorDeclarations :=
    ⟨rfl, _, rfl, .cons ⟨rfl, rfl, rfl, rfl⟩ .nil⟩
  have hplace : doorByPlace.Declares doorDeclarations :=
    ⟨rfl, _, rfl, .cons ⟨rfl, rfl, rfl, rfl⟩ .nil⟩
  constructor
  · exact hsame _ _ _ ((hiff _).1 ⟨_, rfl⟩) ((hiff _).1 ⟨_, rfl⟩) hname hplace
  · intro hmanifest
    obtain ⟨m, hm⟩ := (hiff _).2 hmanifest
    cases hm

end Module

end Wiring
