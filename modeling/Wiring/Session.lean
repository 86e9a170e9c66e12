import Wiring.Module
import Wiring.Registry

/-!
  Passes, which collect declarations and build a registry from them, and sessions.

  Every slot can be bound once; the first declaration for it stays and later ones are refused.
  A step of a pass has an `Outcome`: the pass afterwards, whether the step was accepted, and what
  it reports.  A step that is refused leaves the pass as it was, except that a module keeps what
  was accepted before its first mistake.

  In a session there is one pass after the other, with the registry that was built last.  Building
  ends a pass, whether it succeeds or not, and the next one starts with the same checks.  The
  registry is replaced only by one that was built; until then requests see the one before.
-/

namespace Wiring

/-! ## Checks

The checks that need all declarations of a pass run over the capabilities in order, so the mistake
that is found first does not depend on the order of the declarations.  A capability may be no
declared marker; the other two checks are made only if they are switched on.
-/

/-- Which optional checks a pass makes. -/
structure Checks where
  /-- A capability with several bindings has none without qualifier. -/
  requireQualifiers : Bool := false
  /-- Every marker of a binding is declared. -/
  declaredMarkersOnly : Bool := false
  deriving DecidableEq, Repr

namespace Checks

/-- All optional checks. -/
def strict : Checks := ⟨true, true⟩

end Checks

/-- The mistake of a binding whose marker is not declared. -/
def Binding.markerMistake? (markers : MarkerSet) (b : Binding) : Option BindError :=
  match b.qualifier with
  | some (.marked marker _) =>
    if marker ∈ markers then none else some (.unknownMarker b.implementation marker)
  | _ => none

namespace Slots

/-- The mistake of a capability that is a declared marker. -/
def capabilityMistake? (markers : MarkerSet) (capability : TypeName) (s : Slots) :
    Option BindError :=
  if capability.text ∈ markers then
    s.bindings.head?.map fun b => .capabilityIsMarker b.implementation capability
  else none

/-- The mistake of the first binding whose marker is not declared. -/
def markerMistake? (markers : MarkerSet) (s : Slots) : Option BindError :=
  s.bindings.findSome? (·.markerMistake? markers)

/-- The mistake of a capability with a binding without qualifier and others besides. -/
def qualifierMistake? (capability : TypeName) (s : Slots) : Option BindError :=
  if 1 < s.bindings.length then
    (s.getD none []).head?.map fun b => .missingQualifier capability b.implementation
  else none

/-- The first mistake in the bindings of a capability. -/
def mistake? (checks : Checks) (markers : MarkerSet) (capability : TypeName) (s : Slots) :
    Option BindError :=
  s.capabilityMistake? markers capability <|>
    (if checks.declaredMarkersOnly then s.markerMistake? markers else none) <|>
      if checks.requireQualifiers then s.qualifierMistake? capability else none

end Slots

namespace Index

/-- The first mistake in the bindings of an index. -/
def mistake? (checks : Checks) (markers : MarkerSet) (i : Index) : Option BindError :=
  i.toList.findSome? fun entry => entry.2.mistake? checks markers entry.1

end Index

/-! ## Passes -/

/-- The declarations of a pass so far. -/
structure Pass where
  checks : Checks := {}
  index : Index := ∅
  markers : MarkerSet := ∅
  deriving DecidableEq

/-- What a step does to a pass. -/
structure Outcome where
  pass : Pass
  result : Except BindError Unit
  events : List Event

namespace Outcome

/-- The step that is accepted without a report. -/
def accept (p : Pass) : Outcome := ⟨p, .ok (), []⟩

/-- Goes on with a second step if the first was accepted. -/
def andThen (o : Outcome) (next : Pass → Outcome) : Outcome :=
  match o.result with
  | .error _ => o
  | .ok () => { next o.pass with events := o.events ++ (next o.pass).events }

end Outcome

namespace Pass

/-- A pass without declarations. -/
def start (checks : Checks) : Pass := { checks }

/-- Binds an implementation to a capability, unless the slot is taken.  The slot is entered before
it is looked at. -/
def register (p : Pass) (capability : TypeName) (qualifier : Option Qualifier)
    (implementation : TypeName) : Outcome :=
  let entered := p.index.enter capability qualifier
  match entered.slot capability qualifier with
  | existing :: _ =>
    let e := BindError.boundTwice capability qualifier existing.implementation implementation
    ⟨{ p with index := entered }, .error e, [.bindingRejected e]⟩
  | [] =>
    let b : Binding := ⟨capability, qualifier, implementation⟩
    ⟨{ p with index := entered.add b }, .ok (), [.registered b]⟩

/-- Binds as a provision says, if the provision is sound. -/
def provide (p : Pass) (provision : Provision) : Outcome :=
  match provision.qualifier with
  | .error e => ⟨p, .error e, [.provisionRejected e]⟩
  | .ok qualifier => p.register provision.capability qualifier provision.implementation

/-- The pass in which a marker type is declared as a qualifier. -/
def withMarker (p : Pass) (marker : String) : Pass :=
  { p with markers := p.markers.insert (canonicalSpelling marker) }

/-- Declares a marker type as a qualifier. -/
def declare (p : Pass) (marker : String) : Outcome := .accept (p.withMarker marker)

/-- Makes provisions one after the other, up to the first that is refused. -/
def provideAll (p : Pass) : List Provision → Outcome
  | [] => .accept p
  | provision :: rest => (p.provide provision).andThen fun next => next.provideAll rest

/-- Declares all markers of a module, then makes its provisions up to the first that is refused. -/
def addModule (p : Pass) (m : Module) : Outcome :=
  (m.markers.toList.foldl withMarker p).provideAll m.provisions

/-- Makes the checks and reports their verdict; a pass without mistake is the registry. -/
def buildLogged (p : Pass) : Logged (Except BindError Registry) :=
  match p.index.mistake? p.checks p.markers with
  | some e => ⟨.error e, [.registryRejected e]⟩
  | none =>
    let r : Registry := ⟨p.index⟩
    ⟨.ok r, [.built r.capabilities.length r.size]⟩

/-- The registry of a pass, if the checks find no mistake. -/
def build (p : Pass) : Except BindError Registry := p.buildLogged.value

/-- A pass with the same checks and no declarations. -/
def restart (p : Pass) : Pass := start p.checks

/-! ## Histories -/

/-- A step of a pass, as a value. -/
inductive Call
  | register (capability : TypeName) (qualifier : Option Qualifier) (implementation : TypeName)
  | provide (provision : Provision)
  | declare (marker : String)
  | addModule (m : Module)

/-- Makes a step. -/
def call (p : Pass) : Call → Outcome
  | .register capability qualifier implementation => p.register capability qualifier implementation
  | .provide provision => p.provide provision
  | .declare marker => p.declare marker
  | .addModule m => p.addModule m

/-- The pass after some steps, refused or not. -/
def after (p : Pass) (calls : List Call) : Pass := calls.foldl (fun p c => (p.call c).pass) p

end Pass

/-! ## Sessions -/

/-- The pass that is going on, and the registry that answers requests. -/
structure Session where
  pass : Pass := {}
  registry : Registry := {}
  deriving DecidableEq

namespace Session

/-- A session with an empty pass. -/
def start (checks : Checks) (registry : Registry) : Session := ⟨.start checks, registry⟩

/-- Makes a step of the pass. -/
def call (s : Session) (c : Pass.Call) : Session × Logged (Except BindError Unit) :=
  let o := s.pass.call c
  ({ s with pass := o.pass }, ⟨o.result, o.events⟩)

/-- Ends the pass. -/
def build (s : Session) : Session × Logged (Except BindError Registry) :=
  let built := s.pass.buildLogged
  let registry := match built.value with
    | .ok r => r
    | .error _ => s.registry
  (⟨s.pass.restart, registry⟩, built)

end Session

end Wiring
