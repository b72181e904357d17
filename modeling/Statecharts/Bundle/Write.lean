import Statecharts.Bundle.Basic
import Statecharts.Json.Basic

/-!
# Writing bundles

The layout of a bundle as JSON.  The fields of every object are listed in ascending order.
-/

namespace Statecharts

def Argument.toJson (argument : Argument) : Json :=
  .object [("name", .string argument.name), ("type", .string argument.type)]

def Trigger.toJson (trigger : Trigger) : Json :=
  .object [
    ("arguments", .array (trigger.arguments.map Argument.toJson)),
    ("name", .string trigger.name)]

def Json.ofName? (name : Option String) : Json :=
  name.elim .null .string

def BundleTransition.toJson (transition : BundleTransition) : Json :=
  .object [
    ("from", .string transition.source),
    ("to", .string transition.target),
    ("trigger", .ofName? transition.trigger)]

def BundleState.toJson (state : BundleState) : Json :=
  .object [
    ("children", .strings state.children),
    ("default_enter", .bool state.defaultEnter),
    ("default_exit", .bool state.defaultExit),
    ("enter_reactions", .strings state.enterReactions),
    ("exit_reactions", .strings state.exitReactions),
    ("initial", .bool state.initial),
    ("name", .string state.name),
    ("parent", .ofName? state.parent),
    ("transitions", .array (state.transitions.map BundleTransition.toJson))]

def Bundle.toJson (bundle : Bundle) : Json :=
  .object [
    ("chartc_version", .string bundle.version),
    ("kind", .string "Statechart"),
    ("name", .string bundle.name),
    ("roots", .strings bundle.roots),
    ("states", .array (bundle.states.map BundleState.toJson)),
    ("triggers", .array (bundle.triggers.map Trigger.toJson))]

def Chart.toJson (chart : Chart) : Json :=
  chart.bundle.toJson

end Statecharts
