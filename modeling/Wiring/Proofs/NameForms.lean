import Wiring.Proofs.Expression.Spelling
import Wiring.Proofs.Reachable

/-!
  The written forms of a name.

  A name can be written as a string literal, as a name marker applied to a literal, or bare.  The
  three are read by different means: the bare text is brought into canonical spelling whole, a
  literal after its backslashes are taken away, and the literal of a marker is trimmed first.
  `Qualifier.parse_of_writesName` says that all forms of a text are read as one qualifier, and
  `Provision.qualifier_of_writesName` the same of provisions.

  Whether provisions collide is then a matter of canonical spelling alone: they are for one slot if
  their names have one spelling (`Pass.provide_after_provide`), and out of each other's way if not
  (`Pass.result_provide_after_provide`).

  Main statement: `Pass.name_forms_agree`.
-/

namespace Wiring
open Text

/-! ## Forms of a name -/

/-- The tokens of a name that is not bare: a string, or a name marker applied to it, with the key
of the argument or without it. -/
inductive NameTokens (t : String) : List Token → Prop
  | literal : NameTokens t [.literal t]
  | applied {segments : List String} (hname : pathText segments ∈ nameMarkers) (hasKey : Bool) :
      NameTokens t (.mark '@' ::
        (pathTokens segments ++ .mark '(' :: (keyTokens hasKey ++ [.literal t] ++ [.mark ')'])))

/-- An expression is a written form of a name: its tokens with any blanks around them, or the bare
name if it does not look like one of the others. -/
inductive WritesName (t : String) : String → Prop
  | tokens {ts : List Token} {e : String} (hts : NameTokens t ts) (he : Spaced ts e.toList) :
      WritesName t e
  | bare {c : Char} (hfirst : t.toList.find? (fun d => !isBlank d) = some c) (hat : c ≠ '@')
      (hquote : c ≠ '"') : WritesName t t

theorem ne_nil_of_pathText_mem {segments : List String} (h : pathText segments ∈ nameMarkers) :
    segments ≠ [] := by
  rintro rfl
  exact absurd h (by decide)

theorem NameTokens.denotes {t : String} {ts : List Token} (h : NameTokens t ts) :
    Denotes ts (.ofName t) := by
  cases h with
  | literal => exact .literal t
  | applied hname hasKey =>
    have hne := ne_nil_of_pathText_mem hname
    exact .applied _ hne (.intro hasKey (.literal t)) (.name hname t)

/-- **Every form of a name is read as that name.** -/
theorem Qualifier.parse_of_writesName {t e : String} (h : WritesName t e) :
    parse e = .ok (.ofName t) := by
  cases h with
  | tokens hts he => exact parse_of_expresses ⟨_, hts.denotes, he⟩
  | bare hfirst hat hquote =>
    obtain ⟨rest, hrest⟩ := exists_dropWhile_of_find? hfirst
    exact parse_of_name hrest (State.opening?_eq_none_iff.2 ⟨hat, hquote⟩)

/-! ## Provisions under a name -/

namespace Provision

/-- A provision is made under a name, in one of its written forms. -/
def IsUnder (a : Provision) (t : String) : Prop := ∃ e, a.expression = some e ∧ WritesName t e

/-- A provision under a name, if the implementation may be bound to the capability at all, is for
that name, in whatever form it is written. -/
theorem qualifier_of_writesName {a : Provision} {t : String} (h : a.IsUnder t) :
    a.qualifier =
      if a.implementsCapability then .ok (some (.ofName t))
      else .error (.notAnImplementer a.implementation a.capability) := by
  obtain ⟨e, hexpression, hwrites⟩ := h
  unfold qualifier
  simp only [hexpression, Qualifier.parse_of_writesName hwrites]
  rfl

theorem eq_ofName_of_qualifier {a : Provision} {t : String} (h : a.IsUnder t)
    {q : Option Qualifier} (hq : a.qualifier = .ok q) : q = some (.ofName t) := by
  rw [qualifier_of_writesName h] at hq
  split at hq
  · exact (Except.ok.inj hq).symm
  · cases hq

end Provision

theorem Qualifier.ofName_inj {s t : String} :
    ofName s = ofName t ↔ canonicalSpelling s = canonicalSpelling t := by
  unfold ofName
  rw [Qualifier.named.injEq]

namespace Pass

/-! ## One registration after another -/

theorem slot_register_of_ne (p : Pass) {c c' : TypeName} {q q' : Option Qualifier}
    (hne : ¬ (c = c' ∧ q = q')) (impl : TypeName) :
    (p.register c q impl).pass.index.slot c' q' = p.index.slot c' q' := by
  cases hslot : p.index.slot c q with
  | nil =>
    rw [register_of_free _ hslot]
    simp only [Index.slot_add, if_neg hne]
  | cons existing rest => rw [register_of_taken _ hslot]

theorem kept_slot (c : TypeName) (q : Option Qualifier) {bs : List Binding} (hne : bs ≠ []) :
    Kept (fun _ => True) fun p => p.index.slot c q = bs where
  register {p} b hp _ := by
    by_cases hkeys : b.capability = c ∧ b.qualifier = q
    · obtain ⟨rfl, rfl⟩ := hkeys
      obtain ⟨existing, rest, rfl⟩ := List.exists_cons_of_ne_nil hne
      rw [register_of_taken _ hp]
      exact hp
    · exact (p.slot_register_of_ne hkeys b.implementation).trans hp
  withMarker _ hp := hp

theorem exists_slot_register (p : Pass) (c : TypeName) (q : Option Qualifier) (impl : TypeName) :
    ∃ existing rest, (p.register c q impl).pass.index.slot c q = existing :: rest ∧
      ((p.register c q impl).result = .ok () → existing.implementation = impl) := by
  cases hslot : p.index.slot c q with
  | nil =>
    refine ⟨⟨c, q, impl⟩, [], ?_, fun _ => rfl⟩
    rw [register_of_free _ hslot]
    simp [Index.slot_add, hslot]
  | cons existing rest =>
    rw [register_of_taken _ hslot]
    refine ⟨existing, rest, hslot, ?_⟩
    intro hok
    cases hok

theorem result_register_congr {p p' : Pass} {c : TypeName} {q : Option Qualifier}
    (h : p.index.slot c q = p'.index.slot c q) (impl : TypeName) :
    (p.register c q impl).result = (p'.register c q impl).result := by
  cases hslot : p.index.slot c q with
  | nil => rw [register_of_free impl hslot, register_of_free impl (h ▸ hslot)]
  | cons existing rest => rw [register_of_taken impl hslot, register_of_taken impl (h ▸ hslot)]

/-! ## One provision after another -/

variable {a b : Provision} {q : Option Qualifier}

/-- Two provisions for one slot collide, whatever is called between them. -/
theorem provide_after_provide (p : Pass) (ha : a.qualifier = .ok q) (hb : b.qualifier = .ok q)
    (hcapability : a.capability = b.capability) :
    ∃ existing, ((p.provide a).result = .ok () → existing = a.implementation) ∧
      ∀ calls : List Call, (((p.provide a).pass.after calls).provide b).result =
        .error (.boundTwice b.capability q existing b.implementation) := by
  obtain ⟨existing, rest, hslot, hfirst⟩ :=
    p.exists_slot_register a.capability q a.implementation
  rw [provide_of_ok ha]
  refine ⟨existing.implementation, hfirst, ?_⟩
  intro calls
  have hkept : ((p.register a.capability q a.implementation).pass.after calls).index.slot
      a.capability q = existing :: rest :=
    (kept_slot a.capability q (List.cons_ne_nil existing rest)).after hslot fun c _ => c.tries_true
  rw [hcapability] at hkept ⊢
  rw [provide_of_ok hb, register_of_taken _ hkept]

/-- A provision for another slot makes no difference to the answer. -/
theorem result_provide_after_provide (p : Pass)
    (hne : ∀ q q', a.qualifier = .ok q → b.qualifier = .ok q' →
      ¬ (a.capability = b.capability ∧ q = q')) :
    ((p.provide a).pass.provide b).result = (p.provide b).result := by
  cases ha : a.qualifier with
  | error e => rw [provide_of_error ha]
  | ok q =>
    rw [provide_of_ok ha]
    cases hb : b.qualifier with
    | error e => rw [provide_of_error hb, provide_of_error hb]
    | ok q' =>
      rw [provide_of_ok hb, provide_of_ok hb]
      exact result_register_congr (p.slot_register_of_ne (hne q q' ha hb) a.implementation) _

theorem result_provide_start (ha : a.qualifier = .ok q) (checks : Checks) :
    ((start checks).provide a).result = .ok () := by
  rw [provide_of_ok ha, register_of_free _ (Index.slot_empty _ _)]

/-! ## The main statement -/

/-- **Every written form of a name gives the same qualifier.**  All forms of a text are read as the
name with that text, and provisions under a name are for it in whatever form it is written.  So two
provisions of one capability, whose names are written in any two forms, collide if the names have
one canonical spelling: whichever comes first, in whatever pass and whatever is called in between,
the other is refused as bound twice, and the first is accepted if nothing was there before.  If the
spellings differ, neither makes a difference to the answer to the other. -/
theorem name_forms_agree :
    (∀ t e, WritesName t e → Qualifier.parse e = .ok (.ofName t)) ∧
    (∀ (a : Provision) (t : String), a.IsUnder t →
      a.qualifier =
        if a.implementsCapability then .ok (some (.ofName t))
        else .error (.notAnImplementer a.implementation a.capability)) ∧
    ∀ (a b : Provision) (s t : String), a.IsUnder s → b.IsUnder t →
      a.capability = b.capability →
      (canonicalSpelling s = canonicalSpelling t →
        a.implementsCapability = true → b.implementsCapability = true →
        (∀ checks, ((start checks).provide a).result = .ok ()) ∧
        ∀ p : Pass, ∃ existing, ((p.provide a).result = .ok () → existing = a.implementation) ∧
          ∀ calls : List Call, (((p.provide a).pass.after calls).provide b).result =
            .error (.boundTwice b.capability (some (.ofName t)) existing b.implementation)) ∧
      (canonicalSpelling s ≠ canonicalSpelling t →
        (∀ p : Pass, ((p.provide a).pass.provide b).result = (p.provide b).result) ∧
        ∀ checks, a.implementsCapability = true → b.implementsCapability = true →
          ((start checks).provide a).result = .ok () ∧
          (((start checks).provide a).pass.provide b).result = .ok ()) := by
  refine ⟨fun t e => Qualifier.parse_of_writesName,
    fun a t => Provision.qualifier_of_writesName, ?_⟩
  intro a b s t ha hb hcapability
  have hsound : ∀ {d : Provision} {u : String}, d.IsUnder u → d.implementsCapability = true →
      d.qualifier = .ok (some (.ofName u)) := by
    intro d u hd himplements
    rw [Provision.qualifier_of_writesName hd, if_pos himplements]
  constructor
  · intro hspelling haimplements hbimplements
    have hqa := hsound ha haimplements
    have hqb := hsound hb hbimplements
    rw [Qualifier.ofName_inj.2 hspelling] at hqa
    exact ⟨result_provide_start hqa, fun p => p.provide_after_provide hqa hqb hcapability⟩
  · intro hspelling
    have hother : ∀ p : Pass, ((p.provide a).pass.provide b).result = (p.provide b).result := by
      intro p
      refine p.result_provide_after_provide ?_
      rintro q q' hq hq' ⟨-, rfl⟩
      have hsame := (Provision.eq_ofName_of_qualifier ha hq).symm.trans
        (Provision.eq_ofName_of_qualifier hb hq')
      exact hspelling (Qualifier.ofName_inj.1 (Option.some.inj hsame))
    refine ⟨hother, ?_⟩
    intro checks haimplements hbimplements
    rw [hother]
    exact ⟨result_provide_start (hsound ha haimplements) checks,
      result_provide_start (hsound hb hbimplements) checks⟩

/-- A door under the name ` a.b `, as a string with a backslash that is not needed. -/
def quotedDoor : Provision := (Provision.ofNames "Front" "Door").qualifiedBy "\" a\\.b \""

/-- A door under the name `a . b`, as the argument of a name marker. -/
def markedDoor : Provision :=
  (Provision.ofNames "Back" "Door").qualifiedBy "@ javax . inject . Named ( value = \"a . b\" )"

/-- A door under a bare name. -/
def bareDoor : Provision := (Provision.ofNames "Side" "Door").qualifiedBy " a-b"

/-- Two forms of one name collide over a door, and another name makes no difference to them. -/
theorem name_forms_agree_doors :
    (((start {}).provide quotedDoor).pass.provide markedDoor).result =
      .error (.boundTwice (.ofString "Door") (some (.named "a.b")) (.ofString "Front")
        (.ofString "Back")) ∧
    (((start {}).provide quotedDoor).pass.provide bareDoor).result = .ok () := by
  have hquoted : quotedDoor.IsUnder " a.b " := by
    refine ⟨_, rfl, .tokens .literal (spaced_singleton ⟨" a\\.b ".toList, by decide, ?_⟩)⟩
    exact .plain (by decide) (by decide) (.plain (by decide) (by decide) (.escaped
      (.plain (by decide) (by decide) (.plain (by decide) (by decide) .nil))))
  have hmarked : markedDoor.IsUnder "a . b" := by
    have hblank : Blanks [' '] := blanks_singleton (by decide)
    have hpath : Spaced (pathTokens ["javax", "inject", "Named"])
        " javax . inject . Named ".toList :=
      (spaced_pathTokens_iff (by simp)).2 ⟨by decide +kernel, by decide +kernel⟩
    have hkey : IsKey " value = " := .inr ⟨[' '], [' '], [' '], hblank, hblank, hblank, by decide⟩
    have hliteral := (spaced_literal "a . b").concat_blank (c := ' ') (by decide)
    obtain ⟨hasKey, hkey⟩ := hkey.exists_spaced
    have hall : Spaced _ ("@" ++ " javax . inject . Named " ++ "(" ++ " value = " ++ "\"a . b\" " ++
        ")").toList := spaced_applied hpath hkey hliteral
    exact ⟨_, rfl, .tokens (.applied (by decide) hasKey) hall⟩
  have hbare : bareDoor.IsUnder " a-b" :=
    ⟨_, rfl, .bare (c := 'a') (by decide) (by decide) (by decide)⟩
  have hsame : canonicalSpelling " a.b " = canonicalSpelling "a . b" := by decide +kernel
  have hother : canonicalSpelling " a.b " ≠ canonicalSpelling " a-b" := by decide +kernel
  obtain ⟨-, -, hpairs⟩ := name_forms_agree
  obtain ⟨haccepted, hcollide⟩ := (hpairs _ _ _ _ hquoted hmarked rfl).1 hsame rfl rfl
  obtain ⟨existing, hfirst, hrefused⟩ := hcollide (start {})
  have hname : Qualifier.ofName "a . b" = .named "a.b" := by decide +kernel
  refine ⟨?_, (((hpairs _ _ _ _ hquoted hbare rfl).2 hother).2 {} rfl rfl).2⟩
  have hdoor := hrefused []
  rw [hfirst (haccepted {}), hname] at hdoor
  exact hdoor

end Pass

end Wiring
