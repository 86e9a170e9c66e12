import Wiring.BindsModule
import Wiring.Proofs.Listing

/-!
  The names of the binds methods.

  A method is named for the implementation of its binding, and every such name is an identifier
  (`isIdentifier_methodName`).  The listing goes through the bindings in order and keeps a table of
  names (`MethodTable`); the step lemmas `BindsModule.value_extend_of_new` and
  `BindsModule.value_extend_of_place` say what becomes of one more binding.  By induction over the
  bindings, either all have names of their own and each has its method, or the listing ends at the
  first binding whose name was had before (`BindsModule.value_extend_cases`).

  Main statement: `Registry.bindsModule_lists_bindings`, for any index.
-/

namespace Wiring
open Text

/-- The name of the method of a binding. -/
def Binding.methodName (b : Binding) : String := "binds_" ++ methodPart b.implementation.text

/-! ## Method names are identifiers -/

theorem isIdentifierPart_methodChar (c : Char) : isIdentifierPart (methodChar c) = true := by
  unfold methodChar
  by_cases h : (isLetter c || isNumeral c || c == '_') = true
  · rw [if_pos h]
    simp only [isIdentifierPart, h, Bool.true_or]
  · rw [if_neg h]
    decide

theorem toList_methodPart (name : String) :
    (methodPart name).toList = name.toList.map methodChar := by
  simp [methodPart]

theorem all_isIdentifierPart_methodChar (cs : List Char) :
    (cs.map methodChar).all isIdentifierPart = true := by
  rw [List.all_map, List.all_eq_true]
  intro c _
  exact isIdentifierPart_methodChar c

/-- A method name is an identifier, whatever the name of the implementation is. -/
theorem isIdentifier_methodName (b : Binding) : isIdentifier b.methodName = true := by
  have hstart : isIdentifierList "binds_".toList = true := by decide
  unfold isIdentifier Binding.methodName
  rw [String.toList_append, toList_methodPart, isIdentifierList_append (by decide), hstart,
    all_isIdentifierPart_methodChar]
  rfl

/-! ## Conflicts of names -/

/-- The first conflict in a listing: the binding at place `j` has the method name of the binding at
the earlier place `i`, and none before it has the name of an earlier one. -/
structure FirstConflict (bs : List Binding) (i j : Nat) (existing duplicate : Binding) : Prop where
  lt : i < j
  getElem?_earlier : bs[i]? = some existing
  getElem?_later : bs[j]? = some duplicate
  sameName : existing.methodName = duplicate.methodName
  /-- No other earlier binding has the name. -/
  only : ∀ k < j, ∀ b, bs[k]? = some b → b.methodName = duplicate.methodName → k = i
  /-- There is no conflict before. -/
  first : ∀ l < j, ∀ k < l, ∀ a b, bs[k]? = some a → bs[l]? = some b →
    a.methodName ≠ b.methodName

theorem place_eq_of_methodName {bs : List Binding} (hnodup : (bs.map Binding.methodName).Nodup)
    {k l : Nat} {a b : Binding} (hk : bs[k]? = some a) (hl : bs[l]? = some b)
    (hname : a.methodName = b.methodName) : k = l := by
  have hlt : k < (bs.map Binding.methodName).length := by
    rw [List.length_map]
    exact (List.getElem?_eq_some_iff.1 hk).1
  refine (List.getElem?_inj hlt hnodup).1 ?_
  rw [List.getElem?_map, List.getElem?_map, hk, hl, Option.map_some, Option.map_some, hname]

/-- Bindings with different names, and after them one with the name of an earlier one, have their
first conflict there. -/
theorem FirstConflict.of_nodup {front : List Binding} {existing duplicate : Binding}
    (hnodup : (front.map Binding.methodName).Nodup) (hmem : existing ∈ front)
    (hname : existing.methodName = duplicate.methodName) (back : List Binding) :
    ∃ i, FirstConflict (front ++ duplicate :: back) i front.length existing duplicate := by
  obtain ⟨i, hi⟩ := List.mem_iff_getElem?.1 hmem
  have hlt : i < front.length := (List.getElem?_eq_some_iff.1 hi).1
  have hfront : ∀ k < front.length, (front ++ duplicate :: back)[k]? = front[k]? :=
    fun k hk => List.getElem?_append_left hk
  refine ⟨i, hlt, ?_, ?_, hname, ?_, ?_⟩
  · rw [hfront i hlt, hi]
  · rw [List.getElem?_append_right (Nat.le_refl _), Nat.sub_self, List.getElem?_cons_zero]
  · intro k hk b hb hsame
    rw [hfront k hk] at hb
    exact place_eq_of_methodName hnodup hb hi (hsame.trans hname.symm)
  · intro l hl k hk a b ha hb hsame
    rw [hfront k (Nat.lt_trans hk hl)] at ha
    rw [hfront l hl] at hb
    exact Nat.ne_of_lt hk (place_eq_of_methodName hnodup ha hb hsame)

/-! ## One more binding -/

theorem MethodTable.nodup_names (t : MethodTable) : (t.methods.map BindsMethod.name).Nodup := by
  rw [List.nodup_iff_getElem?_ne_getElem?]
  intro k l hkl hl hsame
  rw [List.length_map] at hl
  have hl' : t.methods[l]?.map BindsMethod.name = some (t.methods.get ⟨l, hl⟩).name := by
    rw [List.getElem?_eq_getElem hl]
    rfl
  have hk' : t.methods[k]?.map BindsMethod.name = some (t.methods.get ⟨l, hl⟩).name := by
    rw [List.getElem?_map, List.getElem?_map] at hsame
    rw [hsame, hl']
  have hplace := (t.places_eq_some_iff _ l).2 hl'
  rw [(t.places_eq_some_iff _ k).2 hk', Option.some.injEq] at hplace
  exact Nat.ne_of_lt hkl hplace

namespace BindsModule

variable {t : MethodTable} {b : Binding} {rest : List Binding}

theorem value_extend_of_new (hnew : t.places[b.methodName]? = none) :
    (extend t (b :: rest)).value = (extend (t.add (.ofBinding b) hnew) rest).value := by
  have hname : t.places[(BindsMethod.ofBinding b).name]? = none := hnew
  rw [extend]
  split
  · next place hplace =>
    rw [hname] at hplace
    cases hplace
  · rfl

/-- A binding whose name has a place in the table ends the listing, and the error names the binding
of that place. -/
theorem value_extend_of_place {place : Nat} {earlier : BindsMethod}
    (hplace : t.places[b.methodName]? = some place) (hearlier : t.methods[place]? = some earlier) :
    (extend t (b :: rest)).value =
      .error (.conflictingMethod b.methodName earlier.binding b) := by
  have hname : t.places[(BindsMethod.ofBinding b).name]? = some place := hplace
  obtain ⟨hlt, rfl⟩ := List.getElem?_eq_some_iff.1 hearlier
  rw [extend]
  split
  · next other hother =>
    rw [hname] at hother
    cases hother
    rfl
  · next hnone =>
    rw [hname] at hnone
    cases hnone

/-- **What a listing comes to.**  Either all names are different and every binding has its method,
or the listing ends at a binding with the name of an earlier one, while the names before it are
different. -/
theorem value_extend_cases (t : MethodTable) (seen rest : List Binding)
    (hseen : t.methods = seen.map BindsMethod.ofBinding) :
    (((seen ++ rest).map Binding.methodName).Nodup ∧
      (extend t rest).value = .ok ⟨(seen ++ rest).map BindsMethod.ofBinding⟩) ∨
    ∃ front existing duplicate back, seen ++ rest = front ++ duplicate :: back ∧
      (front.map Binding.methodName).Nodup ∧ existing ∈ front ∧
      existing.methodName = duplicate.methodName ∧
      (extend t rest).value =
        .error (.conflictingMethod duplicate.methodName existing duplicate) := by
  have hnodup : (seen.map Binding.methodName).Nodup := by
    have hnames := t.nodup_names
    rw [hseen, List.map_map] at hnames
    exact hnames
  induction rest generalizing t seen with
  | nil =>
    refine .inl ⟨by simpa using hnodup, ?_⟩
    rw [List.append_nil, ← hseen]
    rfl
  | cons b rest ih =>
    cases hplace : t.places[b.methodName]? with
    | none =>
      rw [value_extend_of_new hplace]
      have hadd : (t.add (.ofBinding b) hplace).methods =
          (seen ++ [b]).map BindsMethod.ofBinding := by
        rw [List.map_append, ← hseen]
        rfl
      have hnext := (t.add (.ofBinding b) hplace).nodup_names
      rw [hadd, List.map_map] at hnext
      simpa using ih (t.add (.ofBinding b) hplace) (seen ++ [b]) hadd hnext
    | some place =>
      have hname := (t.places_eq_some_iff _ place).1 hplace
      obtain ⟨earlier, hearlier, hsame⟩ := Option.map_eq_some_iff.1 hname
      rw [value_extend_of_place hplace hearlier]
      have hmem : earlier ∈ seen.map BindsMethod.ofBinding :=
        hseen ▸ List.mem_of_getElem? hearlier
      obtain ⟨existing, hexisting, rfl⟩ := List.mem_map.1 hmem
      exact .inr ⟨seen, existing, b, rest, rfl, hnodup, hexisting, hsame, rfl⟩

end BindsModule

namespace Registry

/-! ## The main statement -/

theorem filter_methods_of_mem {bs : List Binding} (hnodup : (bs.map Binding.methodName).Nodup)
    {b : Binding} (hb : b ∈ bs) :
    (bs.map BindsMethod.ofBinding).filter (·.binding = b) = [.ofBinding b] := by
  have hcount : bs.filter (· = b) = [b] := by
    rw [List.filter_eq, List.count_eq_one_of_mem (List.Nodup.of_map _ hnodup) hb]
    rfl
  rw [List.filter_map]
  have hbinding : (fun m : BindsMethod => decide (m.binding = b)) ∘ BindsMethod.ofBinding =
      fun a => decide (a = b) := by
    funext a
    rfl
  rw [hbinding, hcount]
  rfl

theorem mem_bindings_of_resolve {r : Registry} {c : TypeName} {q : Option Qualifier} {b : Binding}
    (h : r.resolve c q = .ok b) : b ∈ r.bindings := by
  refine Index.mem_bindings_iff.2 ⟨c, q, ?_⟩
  obtain ⟨answer, hslot, hanswer⟩ | ⟨-, herror⟩ | ⟨-, herror⟩ := r.resolve_cases c q
  · rw [hanswer, Except.ok.injEq] at h
    simp [hslot, h]
  · rw [herror] at h
    cases h
  · rw [herror] at h
    cases h

theorem bindsModule_of_nodup {r : Registry} (h : (r.bindings.map Binding.methodName).Nodup) :
    r.bindsModule = .ok ⟨r.bindings.map BindsMethod.ofBinding⟩ := by
  rcases BindsModule.value_extend_cases .empty [] r.bindings rfl with
    ⟨-, hok⟩ | ⟨front, existing, duplicate, back, hsplit, -, hmem, hname, -⟩
  · exact hok
  · -- The name of the duplicate would be in the listing twice.
    rw [List.nil_append] at hsplit
    rw [hsplit, List.map_append, List.nodup_append] at h
    exact absurd hname (h.2.2 _ (List.mem_map_of_mem hmem) _ (by simp))

theorem bindsModule_of_not_nodup {r : Registry}
    (h : ¬ (r.bindings.map Binding.methodName).Nodup) :
    ∃ i j existing duplicate, FirstConflict r.bindings i j existing duplicate ∧
      r.bindsModule = .error (.conflictingMethod duplicate.methodName existing duplicate) := by
  rcases BindsModule.value_extend_cases .empty [] r.bindings rfl with
    ⟨hnodup, -⟩ | ⟨front, existing, duplicate, back, hsplit, hfront, hmem, hname, herror⟩
  · exact absurd hnodup h
  · obtain ⟨i, hfirst⟩ := FirstConflict.of_nodup hfront hmem hname back
    rw [List.nil_append] at hsplit
    rw [← hsplit] at hfirst
    exact ⟨i, front.length, existing, duplicate, hfirst, herror⟩

theorem nodup_and_methods_of_bindsModule {r : Registry} {m : BindsModule}
    (hm : r.bindsModule = .ok m) :
    (r.bindings.map Binding.methodName).Nodup ∧
      m.methods = r.bindings.map BindsMethod.ofBinding := by
  by_cases h : (r.bindings.map Binding.methodName).Nodup
  · rw [bindsModule_of_nodup h] at hm
    cases hm
    exact ⟨h, rfl⟩
  · obtain ⟨i, j, existing, duplicate, -, herror⟩ := bindsModule_of_not_nodup h
    rw [hm] at herror
    cases herror

/-- **Every binding has one method, or the first conflict of names is reported.**  The listing of
methods succeeds exactly if the bindings have different method names.  Then it has the method of
each binding at the place of the binding, no two methods have one name, and a binding that answers
a request has exactly one method.  Otherwise the error names the first binding whose name is that of
an earlier one, and the only earlier one with that name.  All names are identifiers. -/
theorem bindsModule_lists_bindings (r : Registry) :
    ((∃ m, r.bindsModule = .ok m) ↔ (r.bindings.map Binding.methodName).Nodup) ∧
    (∀ m, r.bindsModule = .ok m →
      m.methods = r.bindings.map BindsMethod.ofBinding ∧
      (m.methods.map BindsMethod.name).Nodup ∧
      ∀ c q b, r.resolve c q = .ok b → m.methods.filter (·.binding = b) = [.ofBinding b]) ∧
    (¬ (r.bindings.map Binding.methodName).Nodup →
      ∃ i j existing duplicate, FirstConflict r.bindings i j existing duplicate ∧
        r.bindsModule = .error (.conflictingMethod duplicate.methodName existing duplicate)) ∧
    ∀ b, (BindsMethod.ofBinding b).name = b.methodName ∧ isIdentifier b.methodName = true := by
  refine ⟨⟨?_, fun h => ⟨_, bindsModule_of_nodup h⟩⟩, ?_, bindsModule_of_not_nodup,
    fun b => ⟨rfl, isIdentifier_methodName b⟩⟩
  · rintro ⟨m, hm⟩
    exact (nodup_and_methods_of_bindsModule hm).1
  · intro m hm
    obtain ⟨hnodup, hmethods⟩ := nodup_and_methods_of_bindsModule hm
    refine ⟨hmethods, ?_, ?_⟩
    · rw [hmethods, List.map_map]
      exact hnodup
    · intro c q b hb
      rw [hmethods]
      exact filter_methods_of_mem hnodup (mem_bindings_of_resolve hb)

/-- A door that is bound to two implementations. -/
def oakAndElm : Registry :=
  ⟨((∅ : Index).add ⟨.ofString "Door", none, .ofString "Oak"⟩).add
    ⟨.ofString "Door", some (.named "Elm"), .ofString "Elm"⟩⟩

/-- A door and a wall, whose implementations differ in punctuation only. -/
def punctuated : Registry :=
  ⟨((∅ : Index).add ⟨.ofString "Door", none, .ofString "old.Oak"⟩).add
    ⟨.ofString "Wall", none, .ofString "old-Oak"⟩⟩

/-- The binding under a name has one method, and implementations that differ in punctuation only are
in conflict. -/
theorem bindsModule_lists_bindings_doors :
    (∃ m, oakAndElm.bindsModule = .ok m ∧
      m.methods.filter (·.binding = ⟨.ofString "Door", some (.named "Elm"), .ofString "Elm"⟩) =
        [.ofBinding ⟨.ofString "Door", some (.named "Elm"), .ofString "Elm"⟩]) ∧
    ∃ i j existing duplicate, FirstConflict punctuated.bindings i j existing duplicate ∧
      punctuated.bindsModule =
        .error (.conflictingMethod duplicate.methodName existing duplicate) := by
  obtain ⟨hok, hmethods, -, -⟩ := bindsModule_lists_bindings oakAndElm
  obtain ⟨-, -, hconflict, -⟩ := bindsModule_lists_bindings punctuated
  have hnames : oakAndElm.bindings.map Binding.methodName = ["binds_Oak", "binds_Elm"] := by
    decide +kernel
  have hsame : punctuated.bindings.map Binding.methodName = ["binds_old_Oak", "binds_old_Oak"] := by
    decide +kernel
  have hresolve : oakAndElm.resolve (.ofString "Door") (some (.named "Elm")) =
      .ok ⟨.ofString "Door", some (.named "Elm"), .ofString "Elm"⟩ := rfl
  obtain ⟨m, hm⟩ := hok.2 (by rw [hnames]; decide)
  exact ⟨⟨m, hm, (hmethods m hm).2.2 _ _ _ hresolve⟩, hconflict (by rw [hsame]; decide)⟩

end Registry

end Wiring
