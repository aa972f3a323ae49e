import DiagnosticGateway.Ecu.Basic

/-!
# Hooks from rules

A hook can be given as a list of rules. A rule applies to requests whose data starts with
given bytes and, if the rule names one, to one kind of addressing. The first rule that
applies decides, and a request to which none applies is left to the lookup table.
-/

namespace DiagnosticGateway.Ecu

/-- A rule of a hook. -/
structure HookRule where
  /-- The bytes with which the data starts. -/
  leading : Bytes
  addressing : Option Addressing
  action : HookAction
  deriving DecidableEq, Repr

/-- Whether a rule applies to a request. -/
def HookRule.applies (request : Message) (rule : HookRule) : Bool :=
  rule.leading.isPrefixOf request.data &&
    rule.addressing.all fun addressing => addressing == request.addressing

/-- The hook that follows rules. -/
def hookOfRules (rules : List HookRule) : Hook := fun request =>
  match rules.find? (HookRule.applies request) with
  | some rule => rule.action
  | none => .proceed

end DiagnosticGateway.Ecu
