import Statecharts.Files.FileTree
import Statecharts.Records.Yaml

/-!
# Sources of records

Records are given as they are, or as a YAML text that is named by its origin, and the chart may be
given another name than its own.  Nothing behind a source knows where its records come from.
-/

namespace Statecharts

inductive SourceError
  | unreadable (path : String) (error : FileError)
  | malformed (origin : String) (error : Yaml.DecodeError)
  deriving DecidableEq, Repr

def SourceError.message : SourceError → String
  | .unreadable path error => "reading " ++ path ++ ": " ++ error.message
  | .malformed origin error => "unmarshalling yaml from " ++ origin ++ ": " ++ error.message

inductive Source
  | memory (records : ChartRecords)
  | yaml (origin text : String)
  | renamed (name : String) (source : Source)
  deriving DecidableEq, Repr

def Source.read : Source → Except SourceError ChartRecords
  | .memory records => .ok records
  | .yaml origin text => (ChartRecords.ofYaml text).mapError (.malformed origin)
  | .renamed name source => source.read.map fun records => { records with name }

end Statecharts
