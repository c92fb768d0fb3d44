import SharedListener.Config.Basic
import SharedListener.Yaml.Document

/-!
# Reading a configuration

A configuration is a YAML document.  Every section knows its fields: a field that is
not known, comes twice or is missing without a default makes the whole text malformed.
Only a text that is well formed is looked at for flaws.
-/

namespace SharedListener.Config

open Yaml

/-- The value of a field, or the default if the field is not there. -/
def fieldOr {value : Type} (fields : List (String × Node)) (name : String) (default : value)
    (read : Node → Option value) : Option value :=
  match fields.lookup name with
  | some node => read node
  | none => some default

/-- The value of a field that has to be there. -/
def requiredField {value : Type} (fields : List (String × Node)) (name : String)
    (read : Node → Option value) : Option value :=
  fields.lookup name >>= read

/-- Numbers up to 32 bits. -/
def bound32 : Nat := UInt32.size

/-- Numbers up to 64 bits. -/
def bound64 : Nat := UInt64.size

/-- The policy that a node names. -/
def readPolicy (document : Document) (node : Node) : Option ControlPolicy :=
  match document.choice? node with
  | some "fold" => some .fold
  | some "drop" => some .drop
  | _ => none

/-- The listener that a node describes. -/
def readListener (document : Document) (node : Node) : Option Listener := do
  let known := ["listen", "read_buffer_bytes", "max_frame_bytes", "max_handshake_bytes",
    "control_payloads"]
  let fields ← document.fields? known node
  let default : Listener := {}
  return {
    listen := ← fieldOr fields "listen" default.listen document.text?
    readBufferBytes :=
      ← fieldOr fields "read_buffer_bytes" default.readBufferBytes (document.number? bound64)
    maxFrameBytes :=
      ← fieldOr fields "max_frame_bytes" default.maxFrameBytes (document.number? bound64)
    maxHandshakeBytes :=
      ← fieldOr fields "max_handshake_bytes" default.maxHandshakeBytes (document.number? bound64)
    control := ← fieldOr fields "control_payloads" default.control (readPolicy document) }

/-- The operations section that a node describes, if it describes one. -/
def readOperations (document : Document) (node : Node) : Option (Option Operations) := do
  match ← document.present? node with
  | none => return none
  | some node =>
    let fields ← document.fields? ["listen"] node
    return some ⟨← requiredField fields "listen" document.text?⟩

/-- The application that a node describes. -/
def readScope (document : Document) (node : Node) : Option Config.Scope := do
  let fields ← document.fields? ["app", "enabled"] node
  return {
    app := ← requiredField fields "app" document.text?
    enabled := ← fieldOr fields "enabled" true document.truth? }

/-- The applications that a node lists. -/
def readScopes (document : Document) (node : Node) : Option (List Config.Scope) := do
  (← document.items? node).mapM (readScope document)

/-- The configuration that a document describes. -/
def ofDocument? (document : Document) : Option Config := do
  let fields ← document.fields? ["version", "gateway", "ops", "scopes"] document.root
  return {
    version := ← requiredField fields "version" (document.number? bound32)
    listener := ← fieldOr fields "gateway" {} (readListener document)
    operations := ← fieldOr fields "ops" none (readOperations document)
    scopes := ← fieldOr fields "scopes" [] (readScopes document) }

/-- The configuration that a text describes. -/
def ofText (text : String) : Except Flaw Config := do
  match Document.ofText? text >>= ofDocument? with
  | none => throw .malformed
  | some config =>
    config.validate
    return config

end SharedListener.Config
