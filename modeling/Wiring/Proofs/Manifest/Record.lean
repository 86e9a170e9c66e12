import Mathlib
import Wiring.Json.Shape

/-!
  Reading records, against what their fields say.

  `Json.field?` is the value that a record gives for a field, whether the record is written as an
  object or as an array.  `RecordShape.Fills` says that a field fills one part of the draft and that
  no other field touches it.  That part of what is read is then what the value of the field says, or
  what was there before if the field is missing (`RecordShape.Fills.settles`).

  `RecordShape.Takes` says which members can be read at all.  They do not depend on what was read
  before, so a record is accepted or not by its members one by one
  (`RecordShape.Takes.exists_read_iff`).
-/

namespace Wiring

/-! ## Simple values -/

theorem map_eq_ok_iff {α β ε : Type} {f : α → β} {x : Except ε α} {b : β} :
    x.map f = .ok b ↔ ∃ a, x = .ok a ∧ f a = b := by
  cases x <;> simp [Except.map]

theorem mapM_eq_ok_iff {α β ε : Type} {f : α → Except ε β} {l : List α} {l' : List β} :
    l.mapM f = .ok l' ↔ List.Forall₂ (fun a b => f a = .ok b) l l' := by
  induction l generalizing l' with
  | nil => simp [pure, Except.pure, eq_comm]
  | cons a rest ih =>
    have hstep : (a :: rest).mapM f = .ok l' ↔
        ∃ b bs, f a = .ok b ∧ rest.mapM f = .ok bs ∧ b :: bs = l' := by
      rw [List.mapM_cons]
      cases hf : f a with
      | error e => simp [bind, Except.bind]
      | ok b => cases hrest : rest.mapM f <;> simp [bind, Except.bind, pure, Except.pure]
    rw [hstep, List.forall₂_cons_left_iff]
    simp only [ih]
    constructor
    · rintro ⟨b, bs, hb, hbs, rfl⟩
      exact ⟨b, bs, hb, hbs, rfl⟩
    · rintro ⟨b, bs, hb, hbs, rfl⟩
      exact ⟨b, bs, hb, hbs, rfl⟩

namespace Json

theorem asString_eq_ok_iff {j : Json} {s : String} : j.asString = .ok s ↔ j = .string s := by
  cases j <;> simp [asString]

theorem asList_eq_ok_iff {α : Type} {read : Json → Shaped α} {j : Json} {l : List α} :
    j.asList read = .ok l ↔
      ∃ js, j = .array js ∧ List.Forall₂ (fun e a => read e = .ok a) js l := by
  cases j <;> simp [asList, mapM_eq_ok_iff]

theorem asOption_of_ne_null {α : Type} {j : Json} (h : j ≠ .null) (read : Json → Shaped α) :
    j.asOption read = (read j).map some := by
  cases j with
  | null => exact absurd rfl h
  | _ => rfl

end Json

/-! ## Fields -/

namespace Json

/-- The values that a record gives, each under the name of its field.  An array gives them in the
order of the fields. -/
def listed (names : List String) : Json → List (String × Json)
  | .object members => members
  | .array elements => names.zip elements
  | _ => []

/-- The value that a record gives for a field; of two for one field the later counts. -/
def field? (j : Json) (names : List String) (name : String) : Option Json :=
  (j.listed names).reverse.lookup name

/-- A value that may be left out, where null stands for its absence. -/
def given? : Option Json → Option Json
  | some .null => none
  | value => value

end Json

namespace RecordShape

variable {σ α β : Type}

/-- What becomes of a part of a draft by the value for its field: it is put together from what is
read from the value, or it stays what it was before if there is none. -/
def Settles (read : Json → Shaped β) (put : β → α) (before : α) : Option Json → α → Prop
  | none, after => after = before
  | some value, after => ∃ b, read value = .ok b ∧ after = put b

theorem settles_some_iff {read : Json → Shaped β} {value : Option Json} {after : Option β} :
    Settles read some none value after ↔ Option.Rel (fun j b => read j = .ok b) value after := by
  cases value <;> cases after <;> simp [Settles]

theorem isSome_of_settles {read : Json → Shaped β} {value : Option Json} {after : Option β}
    (h : Settles read some none value after) : value.isSome = after.isSome := by
  cases settles_some_iff.1 h <;> rfl

theorem settles_asOption_iff {read : Json → Shaped β} {value : Option Json} {after : Option β} :
    Settles (·.asOption read) id none value after ↔
      Option.Rel (fun j b => read j = .ok b) (Json.given? value) after := by
  rw [← settles_some_iff]
  cases value with
  | none => rfl
  | some j =>
    by_cases hnull : j = .null
    · subst hnull
      simp [Settles, Json.given?, Json.asOption]
    · have hgiven : Json.given? (some j) = some j := by
        cases j <;> simp_all [Json.given?]
      have hread := Json.asOption_of_ne_null hnull read
      rw [hgiven]
      constructor
      · rintro ⟨b, hb, rfl⟩
        obtain ⟨a, ha, rfl⟩ := map_eq_ok_iff.1 (hread.symm.trans hb)
        exact ⟨a, ha, rfl⟩
      · rintro ⟨a, ha, rfl⟩
        exact ⟨some a, hread.trans (map_eq_ok_iff.2 ⟨a, ha, rfl⟩), rfl⟩

/-- A list that is empty at first is what is read from an array, where a missing one stands for an
empty array. -/
theorem settles_asList_iff {read : Json → Shaped β} {put : List β → α} {value : Option Json}
    {after : α} :
    Settles (·.asList read) put (put []) value after ↔
      ∃ js bs, value.getD (.array []) = .array js ∧ List.Forall₂ (fun j b => read j = .ok b) js bs ∧
        after = put bs := by
  cases value with
  | none =>
    simp [Settles]
  | some j =>
    simp only [Settles, Json.asList_eq_ok_iff, Option.getD_some]
    constructor
    · rintro ⟨bs, ⟨js, rfl, hjs⟩, rfl⟩
      exact ⟨js, bs, rfl, hjs, rfl⟩
    · rintro ⟨js, bs, rfl, hjs, rfl⟩
      exact ⟨bs, ⟨js, rfl, hjs⟩, rfl⟩

/-- A field leaves a part of the draft as it is. -/
def Keeps (part : σ → α) (set : σ → Json → Shaped σ) : Prop :=
  ∀ draft j next, set draft j = .ok next → part next = part draft

theorem keeps_map {part : σ → α} {read : Json → Shaped β} {update : σ → β → σ}
    (h : ∀ draft b, part (update draft b) = part draft) :
    Keeps part fun draft j => (read j).map (update draft) := by
  intro draft j next hnext
  obtain ⟨b, -, rfl⟩ := map_eq_ok_iff.1 hnext
  exact h draft b

/-- A field fills one part of the draft with what is read from its value, and the other fields leave
that part as it is. -/
structure Fills (shape : RecordShape σ) (name : String) (part : σ → α) (read : Json → Shaped β)
    (put : β → α) : Prop where
  own : ∃ update : σ → β → σ,
    shape.fields.lookup name = some (fun draft j => (read j).map (update draft)) ∧
      ∀ draft b, part (update draft b) = put b
  others : ∀ field ∈ shape.fields, field.1 ≠ name → Keeps part field.2

namespace Fills

variable {shape : RecordShape σ} {name : String} {part : σ → α} {read : Json → Shaped β}
  {put : β → α}

theorem readMember_own (h : shape.Fills name part read put) {draft next : σ} {j : Json}
    (hread : shape.readMember draft (name, j) = .ok next) :
    ∃ b, read j = .ok b ∧ part next = put b := by
  obtain ⟨update, hset, hfills⟩ := h.own
  simp only [readMember, hset] at hread
  obtain ⟨b, hb, rfl⟩ := map_eq_ok_iff.1 hread
  exact ⟨b, hb, hfills draft b⟩

theorem readMember_other (h : shape.Fills name part read put) {draft next : σ}
    {m : String × Json} (hm : m.1 ≠ name) (hread : shape.readMember draft m = .ok next) :
    part next = part draft := by
  unfold readMember at hread
  cases hset : shape.fields.lookup m.1 with
  | some set =>
    rw [hset] at hread
    obtain ⟨before, after, hfields, -⟩ := List.lookup_eq_some_iff.1 hset
    have hmem : (m.1, set) ∈ shape.fields := by simp [hfields]
    exact h.others (m.1, set) hmem hm draft m.2 next hread
  | none =>
    rw [hset] at hread
    by_cases hignores : shape.ignoresOthers = true
    · simp only [hignores, if_true] at hread
      cases hread
      rfl
    · simp [hignores] at hread

/-- Members that are read one after the other leave the part as the last of the field does. -/
theorem settles_members (h : shape.Fills name part read put) {members : List (String × Json)}
    {draft final : σ} (hread : members.foldlM shape.readMember draft = .ok final) :
    Settles read put (part draft) (members.reverse.lookup name) (part final) := by
  induction members using List.reverseRecOn generalizing final with
  | nil =>
    cases hread
    rfl
  | append_singleton members m ih =>
    rw [List.foldlM_append] at hread
    cases hmid : members.foldlM shape.readMember draft with
    | error e =>
      rw [hmid] at hread
      cases hread
    | ok mid =>
      rw [hmid] at hread
      have hlast : [m].foldlM shape.readMember mid = .ok final := hread
      rw [List.foldlM_cons] at hlast
      simp only [List.foldlM_nil, bind_pure] at hlast
      rw [List.reverse_append, List.reverse_singleton, List.singleton_append]
      by_cases hm : m.1 = name
      · subst hm
        rw [List.lookup_cons_self]
        exact h.readMember_own hlast
      · have hne : (name == m.1) = false := by simpa using Ne.symm hm
        rw [List.lookup_cons, hne, h.readMember_other hm hlast]
        exact ih hmid

end Fills

/-- No two fields have one name. -/
def Distinct (shape : RecordShape σ) : Prop :=
  ∀ field ∈ shape.fields, shape.fields.lookup field.1 = some field.2

/-- The elements of an array are read as the members of their fields' names. -/
theorem foldlM_readElement {shape : RecordShape σ} {fields : List (String × (σ → Json → Shaped σ))}
    (h : ∀ field ∈ fields, shape.fields.lookup field.1 = some field.2) (elements : List Json)
    (draft : σ) :
    (fields.zip elements).foldlM readElement draft =
      ((fields.map (·.1)).zip elements).foldlM shape.readMember draft := by
  induction fields generalizing elements draft with
  | nil => rfl
  | cons field rest ih =>
    obtain ⟨hfield, hrest⟩ := List.forall_mem_cons.1 h
    cases elements with
    | nil => rfl
    | cons j elements =>
      have hfirst : readElement draft (field, j) = shape.readMember draft (field.1, j) := by
        simp only [readElement, readMember, hfield]
      simp only [List.map_cons, List.zip_cons_cons, List.foldlM_cons, hfirst]
      cases shape.readMember draft (field.1, j) with
      | error e => rfl
      | ok next => exact ih hrest elements next

/-- What is read is read from the values that the record gives, one after the other. -/
theorem foldlM_listed {shape : RecordShape σ} (hdistinct : shape.Distinct) {draft final : σ}
    {j : Json} (h : shape.read draft j = .ok final) :
    (j.listed (shape.fields.map (·.1))).foldlM shape.readMember draft = .ok final := by
  cases j with
  | object members => exact h
  | array elements =>
    rw [Json.listed, ← foldlM_readElement hdistinct]
    simp only [read, readElements] at h
    cases hfold : (shape.fields.zip elements).foldlM readElement draft with
    | error e =>
      rw [hfold] at h
      cases h
    | ok next =>
      rw [hfold] at h
      simp only [bind, Except.bind] at h
      split_ifs at h
      exact h
  | _ => cases h

/-- **A part of what is read is what its field says.** -/
theorem Fills.settles {shape : RecordShape σ} (hdistinct : shape.Distinct) {name : String}
    {part : σ → α} {read : Json → Shaped β} {put : β → α} (h : shape.Fills name part read put)
    {draft final : σ} {j : Json} (hread : shape.read draft j = .ok final) :
    Settles read put (part draft) (j.field? (shape.fields.map (·.1)) name) (part final) :=
  h.settles_members (foldlM_listed hdistinct hread)

end RecordShape

/-! ## What is accepted -/

/-- A result that something follows, which fails or not whatever the result is. -/
theorem exists_bind_eq_ok_iff {α β ε : Type} {x : Except ε α} {f : α → Except ε β} {P : Prop}
    (h : ∀ a, (∃ b, f a = .ok b) ↔ P) : (∃ b, x >>= f = .ok b) ↔ (∃ a, x = .ok a) ∧ P := by
  cases x with
  | error e => simp [bind, Except.bind]
  | ok a => simpa [bind, Except.bind] using h a

namespace Json

/-- Reading accepts exactly the values of a kind. -/
def Accepts {α : Type} (read : Json → Shaped α) (kind : Json → Prop) : Prop :=
  ∀ j, (∃ a, read j = .ok a) ↔ kind j

/-- A text. -/
def IsText (j : Json) : Prop := ∃ s, j = .string s

/-- An array of values of a kind. -/
def IsArrayOf (kind : Json → Prop) (j : Json) : Prop := ∃ js, j = .array js ∧ ∀ e ∈ js, kind e

namespace Accepts

variable {α β : Type} {read : Json → Shaped α} {kind : Json → Prop}

theorem string : Accepts asString IsText := by
  intro j
  simp only [asString_eq_ok_iff, IsText]

theorem map (h : Accepts read kind) (f : α → β) : Accepts (fun j => (read j).map f) kind := by
  intro j
  rw [← h j]
  simp only [map_eq_ok_iff]
  constructor
  · rintro ⟨-, a, ha, -⟩
    exact ⟨a, ha⟩
  · rintro ⟨a, ha⟩
    exact ⟨f a, a, ha, rfl⟩

theorem mapM (h : Accepts read kind) (js : List Json) :
    (∃ l, js.mapM read = .ok l) ↔ ∀ e ∈ js, kind e := by
  induction js with
  | nil => simp [pure, Except.pure]
  | cons e rest ih =>
    have hrest : ∀ a, (∃ l, (rest.mapM read >>= fun as => pure (a :: as)) = .ok l) ↔
        ∀ e ∈ rest, kind e := by
      intro a
      rw [exists_bind_eq_ok_iff (P := True) (by simp [pure, Except.pure]), ih, and_true]
    rw [List.mapM_cons, exists_bind_eq_ok_iff hrest, h e, List.forall_mem_cons]

theorem list (h : Accepts read kind) : Accepts (·.asList read) (IsArrayOf kind) := by
  intro j
  cases j <;> simp [asList, IsArrayOf, h.mapM]

theorem option (h : Accepts read kind) :
    Accepts (·.asOption read) fun j => j = .null ∨ kind j := by
  intro j
  by_cases hnull : j = .null
  · subst hnull
    simp [asOption]
  · simp only [asOption_of_ne_null hnull, hnull, false_or]
    exact h.map some j

end Accepts

/-- A record of some fields, of which the first few are needed.  It is an object all of whose
members are allowed, or an array of the field values in their order, where values at the end may be
missing.  A member is allowed by its name and its value. -/
inductive IsRecord (fields : List String) (needed : Nat) (allowed : String → Json → Prop) :
    Json → Prop
  | object {members : List (String × Json)} (hallowed : ∀ m ∈ members, allowed m.1 m.2)
      (hneeded : ∀ name ∈ fields.take needed, ∃ value, (name, value) ∈ members) :
      IsRecord fields needed allowed (.object members)
  | array {elements : List Json} (hallowed : ∀ m ∈ fields.zip elements, allowed m.1 m.2)
      (hneeded : needed ≤ elements.length) (hfields : elements.length ≤ fields.length) :
      IsRecord fields needed allowed (.array elements)

theorem isSome_field?_iff {j : Json} {names : List String} {name : String} :
    (j.field? names name).isSome = true ↔ ∃ value, (name, value) ∈ j.listed names := by
  unfold field?
  rw [List.lookup_isSome_iff]
  simp

end Json

theorem exists_mem_zip {names : List String} {elements : List Json} {needed : Nat}
    (hneeded : needed ≤ elements.length) {name : String} (hname : name ∈ names.take needed) :
    ∃ value, (name, value) ∈ names.zip elements := by
  obtain ⟨k, hk, rfl⟩ := List.mem_iff_getElem.1 hname
  rw [List.length_take] at hk
  have hzip : k < (names.zip elements).length := by
    rw [List.length_zip]
    omega
  have hpair : (names.zip elements)[k] = (names[k], elements[k]) := List.getElem_zip
  refine ⟨elements[k], ?_⟩
  rw [List.getElem_take, ← hpair]
  exact List.getElem_mem hzip

namespace RecordShape

variable {σ : Type} {shape : RecordShape σ} {allowed : String → Json → Prop}

/-- A shape takes the allowed members, whatever it has read before. -/
def Takes (shape : RecordShape σ) (allowed : String → Json → Prop) : Prop :=
  ∀ draft name j, (∃ next, shape.readMember draft (name, j) = .ok next) ↔ allowed name j

/-- A member that is no field is passed over or refused. -/
theorem exists_readMember_iff_of_notMem {draft : σ} {name : String} {j : Json}
    (h : name ∉ shape.fields.map (·.1)) :
    (∃ next, shape.readMember draft (name, j) = .ok next) ↔ shape.ignoresOthers = true := by
  have hnone : shape.fields.lookup name = none := by
    rw [List.lookup_eq_none_iff]
    intro field hfield
    exact bne_iff_ne.2 fun hname => h (List.mem_map.2 ⟨field, hfield, hname.symm⟩)
  simp only [readMember, hnone]
  cases shape.ignoresOthers <;> simp

namespace Takes

theorem exists_foldlM_iff (h : shape.Takes allowed) (members : List (String × Json)) (draft : σ) :
    (∃ final, members.foldlM shape.readMember draft = .ok final) ↔
      ∀ m ∈ members, allowed m.1 m.2 := by
  induction members generalizing draft with
  | nil => simp [pure, Except.pure]
  | cons m rest ih =>
    rw [List.foldlM_cons, exists_bind_eq_ok_iff ih, h, List.forall_mem_cons]

theorem exists_readElements_iff (hdistinct : shape.Distinct) (h : shape.Takes allowed)
    (elements : List Json) (draft : σ) :
    (∃ final, shape.readElements draft elements = .ok final) ↔
      (∀ m ∈ (shape.fields.map (·.1)).zip elements, allowed m.1 m.2) ∧
        shape.required ≤ elements.length ∧ elements.length ≤ shape.fields.length := by
  unfold readElements
  rw [foldlM_readElement hdistinct, exists_bind_eq_ok_iff, h.exists_foldlM_iff]
  intro final
  split_ifs <;> simp <;> omega

/-- **A shape accepts the records of its fields, and no other values.**  An array that is long
enough gives the needed fields; an object may be read without them, so there they are asked for. -/
theorem exists_read_iff (hdistinct : shape.Distinct) (h : shape.Takes allowed) (draft : σ)
    (j : Json) :
    j.IsRecord (shape.fields.map (·.1)) shape.required allowed ↔
      (∃ final, shape.read draft j = .ok final) ∧
        ∀ name ∈ (shape.fields.map (·.1)).take shape.required,
          (j.field? (shape.fields.map (·.1)) name).isSome = true := by
  simp only [Json.isSome_field?_iff]
  constructor
  · intro hrecord
    cases hrecord with
    | object hallowed hneeded => exact ⟨(h.exists_foldlM_iff _ draft).2 hallowed, hneeded⟩
    | array hallowed hneeded hfields =>
      rw [List.length_map] at hfields
      exact ⟨(h.exists_readElements_iff hdistinct _ draft).2 ⟨hallowed, hneeded, hfields⟩,
        fun name hname => exists_mem_zip hneeded hname⟩
  · rintro ⟨hread, hgiven⟩
    cases j with
    | object members => exact .object ((h.exists_foldlM_iff _ draft).1 hread) hgiven
    | array elements =>
      obtain ⟨hallowed, hneeded, hfields⟩ := (h.exists_readElements_iff hdistinct _ draft).1 hread
      exact .array hallowed hneeded (by rwa [List.length_map])
    | _ => simp [read] at hread

end Takes

end RecordShape

end Wiring
