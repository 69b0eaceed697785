import KeyedDelivery.Consumer.Basic

/-!
# Scripted hooks

Handlers that are told what to answer. Each hook has a list of rules; the first rule that fits the
text and is not used up answers. Without one, a message is not passed over, was not handled before,
and is processed.

* `HookRule.consult` finds the answer and uses the rule.
* `Script` keeps the rules and writes down which hook was asked about what.
* `HandlerForm` says which part of a handler is scripted.
-/

namespace KeyedDelivery.Rehearsal

/-- What a hook answers to the texts that meet all conditions given. -/
structure HookRule where
  equals : Option String := none
  contains : Option String := none
  startsWith : Option String := none
  /-- How often the rule may still be used, if there is a limit. -/
  left : Option Nat := none
  answer : HookAnswer

namespace HookRule

def fits (r : HookRule) (text : String) : Bool :=
  r.left != some 0 && r.equals.all (text == ·) && r.contains.all (text.contains ·) &&
    r.startsWith.all (text.startsWith ·)

def use (r : HookRule) : HookRule := { r with left := r.left.map (· - 1) }

/-- The answer of the first rule that applies, and the rules afterwards. -/
def consult (text : String) : List HookRule → Option HookAnswer × List HookRule
  | [] => (none, [])
  | r :: rs =>
    if r.fits text then (some r.answer, r.use :: rs)
    else
      let (answer, rs) := consult text rs
      (answer, r :: rs)

end HookRule

/-- The rules of the hooks, and the hooks that were asked so far. -/
structure Script where
  filter : List HookRule := []
  duplicate : List HookRule := []
  process : List HookRule := []
  asked : List String := []

namespace Script

def rules (s : Script) : Hook → List HookRule
  | .filter => s.filter
  | .duplicate => s.duplicate
  | .process => s.process

/-- Replaces the rules of a hook. -/
def withRules (s : Script) (rs : List HookRule) : Hook → Script
  | .filter => { s with filter := rs }
  | .duplicate => { s with duplicate := rs }
  | .process => { s with process := rs }

/-- Asks the rules of a hook about a text. -/
def ask (h : Hook) (text : String) (s : Script) : HookAnswer × Script :=
  let (told, rs) := HookRule.consult text (s.rules h)
  let s := { s with asked := s.asked ++ [h.name ++ " " ++ text] }
  (told.getD (.returned (.ok (h == .process))), s.withRules rs h)

end Script

/-- Which part of a handler is scripted. -/
inductive HandlerForm where
  /-- All hooks. -/
  | hooks
  /-- The processing. -/
  | processing
  /-- What is done with a package binding, by its partition key. -/
  | packageBind
  /-- Nothing: package bindings are accepted. -/
  | acceptBinds
  deriving DecidableEq, Repr

namespace HandlerForm

def handler {σ : Type} (f : HandlerForm) (get : σ → Script) (set : Script → σ → σ) : Handler σ :=
  let ask (h : Hook) (text : String) (s : σ) : HookAnswer × σ :=
    let (answer, script) := (get s).ask h text
    (answer, set script s)
  match f with
  | .hooks => { ask }
  | .processing => .ofProcess (ask .process)
  | .packageBind => .packageBind fun b => ask .process b.partitionKey
  | .acceptBinds => .acceptBinds

/-- Whether processing a body comes to the script. -/
def reaches (f : HandlerForm) (body : String) : Bool :=
  match f with
  | .packageBind => (PackageBind.ofJson body).toOption.isSome
  | .acceptBinds => false
  | _ => true

end HandlerForm

end KeyedDelivery.Rehearsal
