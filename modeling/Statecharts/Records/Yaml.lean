import Statecharts.Records.Basic
import Statecharts.Yaml.Decode

/-!
# Records as YAML

A record is read from a mapping.  Unknown keys are ignored, and fields with a default may be absent.
-/

namespace Statecharts

open Yaml

def TriggerRecord.decoder : Decoder TriggerRecord :=
  .record "struct TriggerRecord" ["name"] (fun
    | "name" => Decoder.field .string fun record name => { record with name }
    | "arguments" => Decoder.field .string fun record arguments => { record with arguments }
    | _ => none) { name := "" }

def ReactionRecord.decoder : Decoder ReactionRecord :=
  .record "struct ReactionRecord" [] (fun
    | "default" => Decoder.field .bool fun record default => { record with default }
    | "triggers" => Decoder.field (.list .string) fun record triggers => { record with triggers }
    | _ => none) {}

def StateRecord.decoder : Decoder StateRecord :=
  .record "struct StateRecord" ["name"] (fun
    | "name" => Decoder.field .string fun record name => { record with name }
    | "parent" => Decoder.field .string fun record parent => { record with parent }
    | "initial" => Decoder.field .bool fun record initial => { record with initial }
    | "enter" => Decoder.field ReactionRecord.decoder fun record enter => { record with enter }
    | "exit" => Decoder.field ReactionRecord.decoder fun record exit => { record with exit }
    | _ => none) { name := "" }

def TransitionRecord.decoder : Decoder TransitionRecord :=
  .record "struct TransitionRecord" ["from", "to"] (fun
    | "from" => Decoder.field .string fun record source => { record with source }
    | "to" => Decoder.field .string fun record target => { record with target }
    | "trigger" => Decoder.field .string fun record trigger => { record with trigger }
    | _ => none) { source := "", target := "" }

def ChartRecords.decoder : Decoder ChartRecords :=
  .record "struct StatechartRecords" ["name"] (fun
    | "name" => Decoder.field .string fun record name => { record with name }
    | "triggers" =>
      Decoder.field (.list TriggerRecord.decoder) fun record triggers => { record with triggers }
    | "states" =>
      Decoder.field (.list StateRecord.decoder) fun record states => { record with states }
    | "transitions" =>
      Decoder.field (.list TransitionRecord.decoder) fun record transitions =>
        { record with transitions }
    | _ => none) { name := "" }

def ChartRecords.ofYaml (text : String) : Except DecodeError ChartRecords :=
  ChartRecords.decoder.readText text

end Statecharts
