import ShardControl.Document.Form
import ShardControl.Hash.Sha256
import ShardControl.Json.Printer
import ShardControl.Json.Reader

/-!
# Topology documents

A topology and its parameters as one text that can be checked by itself: it
names the version of its format, repeats the sequence of the topology, and
carries the hash of its content in the compact form.
-/

namespace ShardControl

inductive DocumentError where
  | unsupportedVersion (found : UInt16)
  | digestMismatch (recorded computed : String)
  | sequenceMismatch (header payload : UInt64)
  | malformed
  deriving DecidableEq

def formatVersion : UInt16 := 1

def DocumentError.message : DocumentError → String
  | unsupportedVersion found =>
      "unsupported topology schema version " ++ Word.text16 found ++ " (expected " ++
        Word.text16 formatVersion ++ ")"
  | digestMismatch recorded computed =>
      "topology digest mismatch: recorded " ++ recorded ++ ", computed " ++ computed
  | sequenceMismatch header payload =>
      "topology sequence " ++ Word.text64 header ++ " does not match payload sequence " ++
        Word.text64 payload
  | malformed => "topology document JSON error"

structure Document where
  version : UInt16
  sequence : UInt64
  digest : String
  topology : Topology
  parameters : Parameters
  deriving DecidableEq

namespace Document

open Json

def payload (topology : Topology) (parameters : Parameters) : String :=
  (Json.record [("topology", toJson topology), ("parameters", toJson parameters)]).compact

def digestOf (topology : Topology) (parameters : Parameters) : String :=
  Sha256.hex (payload topology parameters).toUTF8

def make (topology : Topology) (parameters : Parameters) : Document where
  version := formatVersion
  sequence := topology.sequence
  digest := digestOf topology parameters
  topology := topology
  parameters := parameters

instance : JsonForm Document where
  toJson document :=
    .record
      [("schema_version", toJson document.version), ("sequence", toJson document.sequence),
       ("digest", toJson document.digest), ("topology", toJson document.topology),
       ("parameters", toJson document.parameters)]
  ofJson? value :=
    match members?
        [member "schema_version", member "sequence", member "digest", member "topology",
         member "parameters"] value with
    | some [version, sequence, digest, topology, parameters] =>
        return {
          version := ← required version
          sequence := ← required sequence
          digest := ← required digest
          topology := ← required topology
          parameters := ← required parameters }
    | _ => none

def encode (document : Document) : String := (toJson document).indented

/-- Whether header and hash agree with the content; the version is not looked at. -/
def verify (document : Document) : Except DocumentError Unit :=
  if document.sequence ≠ document.topology.sequence then
    .error (.sequenceMismatch document.sequence document.topology.sequence)
  else
    let computed := digestOf document.topology document.parameters
    if computed ≠ document.digest then .error (.digestMismatch document.digest computed)
    else .ok ()

/-- The format version that a value names, whatever else it holds. -/
def version? (value : Json) : Option UInt16 :=
  match members? [member "schema_version"] value with
  | some [version] => required version
  | _ => none

/-- Read a document from a value: its version first, then all of it, then whether it agrees. -/
def ofValue (value : Json) : Except DocumentError Document :=
  match version? value with
  | none => .error .malformed
  | some found =>
      if found ≠ formatVersion then .error (.unsupportedVersion found)
      else
        match (ofJson? value : Option Document) with
        | none => .error .malformed
        | some document => document.verify.map fun _ => document

def decode (bytes : ByteArray) : Except DocumentError Document :=
  match Json.ofBytes? bytes with
  | none => .error .malformed
  | some value => ofValue value

end Document

end ShardControl
