import Wiring.Manifest
import Wiring.Proofs.History
import Wiring.Proofs.Manifest.Record

/-!
  Manifests and the calls that declare the same.

  `Json.Declares` says what a manifest declares, by the values of its fields alone: the spellings of
  its markers and the entries of its provisions, whether its records are written as objects or as
  arrays, and with an optional field left out or null.  `Module.assemble` makes these declarations
  one by one.

  Reading a manifest keeps the markers as they are spelled, and assembling a module does not, so the
  two modules differ.  A pass cannot tell them apart.

  Main statement: `Module.read_agrees_with_calls`.
-/

namespace Wiring

/-! ## What a manifest declares -/

/-- What a manifest says about one provision. -/
structure Entry where
  implementation : String
  capability : String
  expression : Option String := none
  supertypes : Option (List String) := none
  deriving DecidableEq

/-- The provision that an entry asks for. -/
def Entry.provision (e : Entry) : Provision :=
  let plain := Provision.ofNames e.implementation e.capability
  let qualified := e.expression.elim plain plain.qualifiedBy
  e.supertypes.elim qualified qualified.implementing

/-- One declaration of a manifest. -/
inductive Declaration
  | marker (spelling : String)
  | provision (e : Entry)
  deriving DecidableEq

namespace Declaration

/-- The spelling of the marker, if one is declared. -/
def spelling? : Declaration → Option String
  | .marker spelling => some spelling
  | .provision _ => none

/-- The entry of the provision, if one is made. -/
def entry? : Declaration → Option Entry
  | .marker _ => none
  | .provision e => some e

/-- The spellings of the declared markers, in their order. -/
def spellings (ds : List Declaration) : List String := ds.filterMap spelling?

/-- The entries of the provisions, in their order. -/
def entries (ds : List Declaration) : List Entry := ds.filterMap entry?

end Declaration

namespace Module

/-- The module with one more declaration. -/
def make (m : Module) : Declaration → Module
  | .marker spelling => m.declare spelling
  | .provision e => m.provide e.provision

/-- The module that some declarations make, one after the other. -/
def assemble (ds : List Declaration) : Module := ds.foldl make {}

end Module

/-- The names of the fields of a provision, in the order of an array. -/
def entryFields : List String := ["implementation", "capability", "qualifier", "supertypes"]

/-- The names of the fields of a module, in the order of an array. -/
def moduleFields : List String := ["qualifiers", "provisions"]

/-- A value says what an entry holds. -/
structure Json.Holds (j : Json) (e : Entry) : Prop where
  implementation : j.field? entryFields "implementation" = some (.string e.implementation)
  capability : j.field? entryFields "capability" = some (.string e.capability)
  expression : Json.given? (j.field? entryFields "qualifier") = e.expression.map .string
  supertypes : Json.given? (j.field? entryFields "supertypes") =
    e.supertypes.map fun names => .array (names.map .string)

/-- A manifest makes some declarations.  It lists the markers and the provisions apart, so the
declarations may be in any mixture of the two. -/
structure Json.Declares (j : Json) (ds : List Declaration) : Prop where
  markers : (j.field? moduleFields "qualifiers").getD (.array []) =
    .array ((Declaration.spellings ds).map .string)
  provisions : ∃ js, (j.field? moduleFields "provisions").getD (.array []) = .array js ∧
    List.Forall₂ Json.Holds js (Declaration.entries ds)

/-! ## Texts and lists of texts -/

/-- Lists that correspond element by element, where every pair of elements comes of one thing. -/
theorem exists_forall₂_map {α β γ : Type} {R : α → β → Prop} {S : α → γ → Prop} {g : γ → β}
    (h : ∀ a b, R a b → ∃ c, S a c ∧ b = g c) {l : List α} {l' : List β}
    (hl : List.Forall₂ R l l') : ∃ cs, List.Forall₂ S l cs ∧ l' = cs.map g := by
  induction hl with
  | nil => exact ⟨[], .nil, rfl⟩
  | @cons a b l l' hab _ ih =>
    obtain ⟨c, hc, rfl⟩ := h a b hab
    obtain ⟨cs, hcs, rfl⟩ := ih
    exact ⟨c :: cs, .cons hc hcs, rfl⟩

theorem eq_map_string {js : List Json} {ss : List String}
    (h : List.Forall₂ (fun j s => j = Json.string s) js ss) : js = ss.map .string := by
  have hmap : List.Forall₂ Eq js (ss.map Json.string) := List.forall₂_map_right_iff.2 h
  rwa [List.forall₂_eq_eq_eq] at hmap

theorem TypeName.exists_string {j : Json} {name : TypeName} (h : TypeName.ofJson j = .ok name) :
    ∃ s, j = Json.string s ∧ name = .ofString s := by
  obtain ⟨s, hs, rfl⟩ := map_eq_ok_iff.1 h
  exact ⟨s, Json.asString_eq_ok_iff.1 hs, rfl⟩

theorem TypeName.exists_strings {j : Json} {names : List TypeName}
    (h : j.asList TypeName.ofJson = .ok names) :
    ∃ ss : List String, j = .array (ss.map .string) ∧ names = ss.map .ofString := by
  obtain ⟨js, rfl, hjs⟩ := Json.asList_eq_ok_iff.1 h
  obtain ⟨ss, hss, rfl⟩ := exists_forall₂_map (fun _ _ hj => TypeName.exists_string hj) hjs
  exact ⟨ss, by rw [eq_map_string hss], rfl⟩

/-! ## Reading a provision -/

namespace Provision
open RecordShape

theorem distinct_shape : shape.Distinct := by
  simp [RecordShape.Distinct, shape, List.lookup]

theorem fills_implementation :
    shape.Fills "implementation" ProvisionDraft.implementation TypeName.ofJson some where
  own := ⟨fun draft name => { draft with implementation := some name }, rfl, fun _ _ => rfl⟩
  others := by simp [shape, keeps_map]

theorem fills_capability :
    shape.Fills "capability" ProvisionDraft.capability TypeName.ofJson some where
  own := ⟨fun draft name => { draft with capability := some name }, rfl, fun _ _ => rfl⟩
  others := by simp [shape, keeps_map]

theorem fills_expression :
    shape.Fills "qualifier" ProvisionDraft.expression (·.asOption Json.asString) id where
  own := ⟨fun draft expression => { draft with expression }, rfl, fun _ _ => rfl⟩
  others := by simp [shape, keeps_map]

theorem fills_supertypes : shape.Fills "supertypes" ProvisionDraft.supertypes
    (·.asOption (Json.asList TypeName.ofJson)) id where
  own := ⟨fun draft supertypes => { draft with supertypes }, rfl, fun _ _ => rfl⟩
  others := by simp [shape, keeps_map]

theorem finish_eq_ok_iff {d : ProvisionDraft} {p : Provision} :
    d.finish = .ok p ↔ d.implementation = some p.implementation ∧
      d.capability = some p.capability ∧ d.expression = p.expression ∧
        d.supertypes = p.supertypes := by
  obtain ⟨implementation, capability, expression, supertypes⟩ := d
  obtain ⟨i, c, e, t⟩ := p
  cases implementation <;> cases capability <;> simp [ProvisionDraft.finish]

theorem exists_name {value : Option Json} {name : TypeName}
    (h : Option.Rel (fun j n => TypeName.ofJson j = .ok n) value (some name)) :
    ∃ s, value = some (.string s) ∧ name = .ofString s := by
  cases h with
  | some hname =>
    obtain ⟨s, rfl, rfl⟩ := TypeName.exists_string hname
    exact ⟨s, rfl, rfl⟩

theorem eq_map_of_rel {value : Option Json} {expression : Option String}
    (h : Option.Rel (fun j s => Json.asString j = .ok s) value expression) :
    value = expression.map .string := by
  cases h with
  | none => rfl
  | some hs =>
    rw [Json.asString_eq_ok_iff.1 hs]
    rfl

theorem exists_names {value : Option Json} {supertypes : Option (List TypeName)}
    (h : Option.Rel (fun j names => j.asList TypeName.ofJson = .ok names) value supertypes) :
    ∃ names : Option (List String), value = names.map (fun ss => .array (ss.map .string)) ∧
      supertypes = names.map fun ss => ss.map .ofString := by
  cases h with
  | none => exact ⟨none, rfl, rfl⟩
  | some hnames =>
    obtain ⟨ss, rfl, rfl⟩ := TypeName.exists_strings hnames
    exact ⟨some ss, rfl, rfl⟩

/-- **What is read as a provision is the provision of the entry that the value holds.** -/
theorem exists_holds {j : Json} {p : Provision} (h : ofJson j = .ok p) :
    ∃ e : Entry, j.Holds e ∧ p = e.provision := by
  obtain ⟨implementation, capability, expression, supertypes⟩ := p
  unfold ofJson at h
  cases hread : shape.read {} j with
  | error e =>
    rw [hread] at h
    cases h
  | ok d =>
    rw [hread] at h
    obtain ⟨himplementation, hcapability, hexpression, hsupertypes⟩ := finish_eq_ok_iff.1 h
    have hi := settles_some_iff.1 (fills_implementation.settles distinct_shape hread)
    have hc := settles_some_iff.1 (fills_capability.settles distinct_shape hread)
    have he := settles_asOption_iff.1 (fills_expression.settles distinct_shape hread)
    have ht := settles_asOption_iff.1 (fills_supertypes.settles distinct_shape hread)
    rw [himplementation] at hi
    rw [hcapability] at hc
    rw [hexpression] at he
    rw [hsupertypes] at ht
    obtain ⟨i, hi', rfl⟩ := exists_name hi
    obtain ⟨c, hc', rfl⟩ := exists_name hc
    obtain ⟨names, ht', rfl⟩ := exists_names ht
    refine ⟨⟨i, c, expression, names⟩, ⟨hi', hc', eq_map_of_rel he, ht'⟩, ?_⟩
    cases expression <;> cases names <;> rfl

end Provision

theorem Json.string_injective : Function.Injective Json.string := fun _ _ h => Json.string.inj h

theorem Json.strings_injective :
    Function.Injective fun ss : List String => Json.array (ss.map .string) := fun _ _ h =>
  List.map_injective_iff.2 Json.string_injective (Json.array.inj h)

/-- A value says one entry at most. -/
theorem Json.rightUnique_holds : Relator.RightUnique Json.Holds := by
  intro j e e' h h'
  obtain ⟨implementation, capability, expression, supertypes⟩ := e
  obtain ⟨implementation', capability', expression', supertypes'⟩ := e'
  have hi := h.implementation.symm.trans h'.implementation
  have hc := h.capability.symm.trans h'.capability
  have he : expression = expression' :=
    Option.map_injective Json.string_injective (h.expression.symm.trans h'.expression)
  have ht : supertypes = supertypes' :=
    Option.map_injective Json.strings_injective (h.supertypes.symm.trans h'.supertypes)
  simp only [Option.some.injEq, Json.string.injEq] at hi hc
  rw [hi, hc, he, ht]

/-! ## Reading a module -/

namespace Module
open RecordShape Declaration

theorem distinct_shape : shape.Distinct := by
  simp [RecordShape.Distinct, shape, List.lookup]

theorem fills_markers :
    shape.Fills "qualifiers" markers (·.asList Json.asString) fun ss => .ofList ss where
  own := ⟨fun draft markers => { draft with markers := .ofList markers }, rfl, fun _ _ => rfl⟩
  others := by simp [shape, keeps_map]

theorem fills_provisions :
    shape.Fills "provisions" provisions (·.asList Provision.ofJson) id where
  own := ⟨fun draft provisions => { draft with provisions }, rfl, fun _ _ => rfl⟩
  others := by simp [shape, keeps_map]

/-- Markers and then provisions, as declarations. -/
def declarations (markers : List String) (es : List Entry) : List Declaration :=
  markers.map .marker ++ es.map .provision

theorem spellings_declarations (markers : List String) (es : List Entry) :
    spellings (declarations markers es) = markers := by
  simp [spellings, declarations, List.filterMap_map, Function.comp_def, spelling?]

theorem entries_declarations (markers : List String) (es : List Entry) :
    entries (declarations markers es) = es := by
  simp [entries, declarations, List.filterMap_map, Function.comp_def, entry?]

/-- **What is read as a module is what the manifest declares.** -/
theorem exists_declares {v : Json} {m : Module} (h : ofJson v = .ok m) :
    ∃ ds, v.Declares ds ∧ m.markers = .ofList (spellings ds) ∧
      m.provisions = (entries ds).map Entry.provision := by
  obtain ⟨js, markers, hjs, hmarkers, hm⟩ :=
    settles_asList_iff.1 (fills_markers.settles distinct_shape h)
  obtain ⟨ks, ps, hks, hps, hp⟩ :=
    settles_asList_iff.1 (fills_provisions.settles distinct_shape h)
  obtain ⟨es, hes, rfl⟩ := exists_forall₂_map (fun _ _ hj => Provision.exists_holds hj) hps
  refine ⟨declarations markers es, ⟨?_, ks, hks, ?_⟩, ?_, ?_⟩
  · rw [spellings_declarations,
      ← eq_map_string (hmarkers.imp fun _ _ => Json.asString_eq_ok_iff.1)]
    exact hjs
  · rwa [entries_declarations]
  · rwa [spellings_declarations]
  · rwa [entries_declarations]

/-- A manifest makes its declarations only, apart from the mixture of markers and provisions. -/
theorem eq_of_declares {v : Json} {ds ds' : List Declaration} (h : v.Declares ds)
    (h' : v.Declares ds') : spellings ds = spellings ds' ∧ entries ds = entries ds' := by
  constructor
  · exact Json.strings_injective (h.markers.symm.trans h'.markers)
  · obtain ⟨js, hjs, hes⟩ := h.provisions
    obtain ⟨js', hjs', hes'⟩ := h'.provisions
    have heq : js = js' := Json.array.inj (hjs.symm.trans hjs')
    subst heq
    exact List.right_unique_forall₂' Json.rightUnique_holds hes hes'

theorem assemble_concat (ds : List Declaration) (d : Declaration) :
    assemble (ds ++ [d]) = (assemble ds).make d := by
  rw [assemble, List.foldl_concat, assemble]

theorem provisions_assemble (ds : List Declaration) :
    (assemble ds).provisions = (entries ds).map Entry.provision := by
  induction ds using List.reverseRecOn with
  | nil => rfl
  | append_singleton ds d ih =>
    rw [assemble_concat, entries, List.filterMap_append, List.map_append, ← entries, ← ih]
    cases d with
    | marker spelling => simp [make, declare, entry?]
    | provision e => simp [make, provide, entry?]

theorem mem_markers_assemble {ds : List Declaration} {marker : String} :
    marker ∈ (assemble ds).markers ↔ ∃ s ∈ spellings ds, canonicalSpelling s = marker := by
  induction ds using List.reverseRecOn with
  | nil => simp [assemble, spellings]
  | append_singleton ds d ih =>
    rw [assemble_concat, spellings, List.filterMap_append, ← spellings]
    cases d with
    | marker spelling =>
      simp [make, declare, spelling?, ih, or_and_right, exists_or, or_comm]
    | provision e => simp [make, provide, spelling?, ih]

end Module

/-! ## Adding to a pass -/

namespace Pass

/-- A pass does not tell two modules apart whose markers mean the same and whose provisions are the
same. -/
theorem addModule_congr {m m' : Module}
    (hmarkers : ∀ marker, (∃ s ∈ m.markers, canonicalSpelling s = marker) ↔
      ∃ s ∈ m'.markers, canonicalSpelling s = marker)
    (hprovisions : m.provisions = m'.provisions) (p : Pass) : p.addModule m = p.addModule m' := by
  have hsets : p.markers.insertMany (m.markers.toList.map canonicalSpelling) =
      p.markers.insertMany (m'.markers.toList.map canonicalSpelling) := by
    apply Std.ExtTreeSet.ext_mem
    intro marker
    simp [hmarkers]
  unfold addModule
  rw [foldl_withMarker, foldl_withMarker, hsets, hprovisions]

end Pass

namespace Module
open Declaration

/-- **A manifest and the calls that declare the same give the same pass.**  Whatever is read as a
module `m` makes declarations.  The module assembled of them in any mixture has the provisions of
`m`, and the markers of `m` in canonical spelling where `m` has them as they are spelled in the
manifest.  Adding either module to any pass has the same outcome: the same pass afterwards, the same
result and the same reports. -/
theorem read_agrees_with_calls {v : Json} {m : Module} (h : ofJson v = .ok m) :
    (∃ ds, v.Declares ds) ∧
    ∀ ds, v.Declares ds →
      (assemble ds).provisions = m.provisions ∧
      (∀ marker, marker ∈ m.markers ↔ marker ∈ spellings ds) ∧
      (∀ marker, marker ∈ (assemble ds).markers ↔
        ∃ s ∈ m.markers, canonicalSpelling s = marker) ∧
      ∀ p : Pass, p.addModule m = p.addModule (assemble ds) := by
  obtain ⟨read, hread, hmarkers, hprovisions⟩ := exists_declares h
  refine ⟨⟨read, hread⟩, ?_⟩
  intro ds hds
  obtain ⟨hspellings, hentries⟩ := eq_of_declares hread hds
  have hspelled : ∀ marker, marker ∈ m.markers ↔ marker ∈ spellings ds := by
    intro marker
    rw [hmarkers, hspellings]
    simp
  have hcanonical : ∀ marker, marker ∈ (assemble ds).markers ↔
      ∃ s ∈ m.markers, canonicalSpelling s = marker := by
    intro marker
    simp only [mem_markers_assemble, hspelled]
  have hsame : (assemble ds).provisions = m.provisions := by
    rw [provisions_assemble, hprovisions, hentries]
  refine ⟨hsame, hspelled, hcanonical, ?_⟩
  apply Pass.addModule_congr _ hsame.symm
  intro marker
  -- A canonical spelling is its own, so nothing changes when it is taken again.
  simp only [hcanonical]
  constructor
  · rintro ⟨s, hs, rfl⟩
    exact ⟨_, ⟨s, hs, rfl⟩, canonicalSpelling_canonicalSpelling s⟩
  · rintro ⟨_, ⟨s, hs, rfl⟩, rfl⟩
    exact ⟨s, hs, (canonicalSpelling_canonicalSpelling s).symm⟩

/-- A manifest with two spellings of one marker, and with a provision written as an array. -/
def twoSpellings : Json :=
  .object [("provisions", .array [.array [.string " a . Door", .string "a.Part", .null,
    .array [.string "a . Part"]]]), ("qualifiers", .array [.string " a . Q ", .string "a.Q"])]

/-- Calls that declare the same. -/
def twoSpellingsCalls : List Declaration :=
  [.marker " a . Q ", .provision ⟨" a . Door", "a.Part", none, some ["a . Part"]⟩, .marker "a.Q"]

/-- The manifest is read as a module with both spellings, which a pass does not see. -/
theorem read_agrees_with_calls_twoSpellings :
    ∃ m, ofJson twoSpellings = .ok m ∧ m ≠ assemble twoSpellingsCalls ∧
      ∀ p : Pass, p.addModule m = p.addModule (assemble twoSpellingsCalls) := by
  have hds : twoSpellings.Declares twoSpellingsCalls :=
    ⟨rfl, _, rfl, .cons ⟨rfl, rfl, rfl, rfl⟩ .nil⟩
  obtain ⟨m, hm⟩ : ∃ m, ofJson twoSpellings = .ok m := ⟨_, rfl⟩
  obtain ⟨-, hall⟩ := read_agrees_with_calls hm
  obtain ⟨-, hspelled, hcanonical, hadd⟩ := hall _ hds
  refine ⟨m, hm, ?_, hadd⟩
  intro heq
  have hmem : " a . Q " ∈ m.markers := (hspelled _).2 (by decide)
  have hcanon : ∀ s ∈ spellings twoSpellingsCalls, canonicalSpelling s ≠ " a . Q " := by
    decide +kernel
  rw [heq] at hmem
  obtain ⟨s, hs, hspelling⟩ := (hcanonical _).1 hmem
  exact hcanon s ((hspelled s).1 hs) hspelling

end Module

end Wiring
