import MeshAgent.Wire.Field
import MeshAgent.Yaml.Value
import MeshAgent.Yaml.Writer

/-!
# Configuration

Four settings, kept in a YAML file that people may edit. A file that is refused counts as absent.
-/
namespace MeshAgent

structure Config where
  apiUrl : String := "https://api.meshgarden.io"
  dbFile : String := "meshgarden.db"
  keyFile : String := "store.key"
  listenPort : Int := 0
deriving DecidableEq, Repr

namespace Config

def ofFields (fs : Field.Fields) : Checked Config :=
  Config.mk
    <$> Field.optional "api_url" "api_url" ({} : Config).apiUrl Field.text fs
    <*> Field.optional "db_file" "db_file" ({} : Config).dbFile Field.text fs
    <*> Field.optional "key_file" "key_file" ({} : Config).keyFile Field.text fs
    <*> Field.optional "listen_port" "listen_port" ({} : Config).listenPort Field.int fs

/-- Settings given by values that have no types yet. -/
def ofDatum (d : Datum) : Except Failure Config := (Field.record ofFields d).toExcept

/-- Line ends of other systems become plain ones. -/
def plainLineEnds : List Char → List Char
  | '\r' :: '\n' :: r => '\n' :: plainLineEnds r
  | '\r' :: r => '\n' :: plainLineEnds r
  | c :: r => c :: plainLineEnds r
  | [] => []

/-- Reads the text of a file. An empty document leaves everything at its default, and settings that do
not fit are refused. -/
def ofText (reader : Yaml.Reader) (cs : List Char) : Except Yaml.Problem Config := do
  let d ← reader (plainLineEnds cs)
  if d.isEmpty then return {}
  match ofDatum d with
  | .ok c => return c
  | .error _ => throw .refused

/-- Reads a file. -/
def ofBytes (reader : Yaml.Reader) (bytes : Bytes) : Except Yaml.Problem Config := do
  let s ← Yaml.orRefused (Bytes.toText? bytes)
  ofText reader s.toList

/-- The text of a file. -/
def write (c : Config) : List Char :=
  Yaml.writeEntry "api_url" (fun column => Yaml.Scalar.write column c.apiUrl)
    ++ Yaml.writeEntry "db_file" (fun column => Yaml.Scalar.write column c.dbFile)
    ++ Yaml.writeEntry "key_file" (fun column => Yaml.Scalar.write column c.keyFile)
    ++ Yaml.writeEntry "listen_port" (fun _ => Decimal.writeInt c.listenPort)

end Config

end MeshAgent
