import Gatehouse.Config.Check
import Gatehouse.Toml.Document

/-!
# Reading configurations

A configuration file is a document with one table for each section. What it
does not set keeps its default, and settings that are not known are
ignored, but a setting of the wrong kind spoils the whole file. A section
may also be written as an array of its settings in their order.

Reading and checking are two steps: settings given on the command line come
in between.
-/

namespace Gatehouse.Config

open Toml

/-- Why there is no configuration. -/
inductive ReadError where
  /-- The file cannot be read as text. -/
  | unreadable
  /-- The text is no configuration. -/
  | malformed
  /-- The configuration is not acceptable. -/
  | invalid (problems : List Problem)
deriving DecidableEq, Inhabited

/-- The text of all problems. -/
def problemsMessage (ps : List Problem) : String :=
  "Validation failed: " ++ Text.join ", " (ps.map Problem.message)

/-! ## Settings -/

/-- Where the settings of a section are found: by their place and name. -/
abbrev Source := Nat → String → Option Value

/-- The settings of a section. A point in time has none, and anything but a
table or an array is no section. -/
def source? : Value → Option Source
  | .table _ es => some fun _ name => Entries.find? es name
  | .array items => some fun i _ => items[i]?
  | .tables items => some fun i _ => (items[i]?).map (.table .header)
  | .datetime => some fun _ _ => none
  | _ => none

/-- A setting, or its default where it is not set. -/
def setting {α : Type} (s : Source) (place : Nat) (name : String)
    (read : Value → Option α) (standard : α) : Option α :=
  match s place name with
  | none => some standard
  | some v => read v

/-- A text. -/
def text? : Value → Option String
  | .text s => some s
  | _ => none

/-- A switch. -/
def boolean? : Value → Option Bool
  | .boolean b => some b
  | _ => none

/-- A number that is not negative. -/
def natural? : Value → Option Nat
  | .integer n => if 0 ≤ n then some n.toNat else none
  | _ => none

/-- A list of texts. -/
def texts? : Value → Option (List String)
  | .array items => items.mapM text?
  | _ => none

/-- The log format of a name. -/
def logFormatOf? (name : String) : Option LogFormat :=
  if name = "pretty" then some .pretty
  else if name = "json" then some .json
  else none

/-- Whether a value is an array or table without members. -/
def isVoid : Value → Bool
  | .array items => items.isEmpty
  | .table _ es => es.isEmpty
  | _ => false

/-- A log format: its name, or a table with its name as the only key and
nothing under it. -/
def logFormat? : Value → Option LogFormat
  | .text s => logFormatOf? s
  | .table _ [(name, v)] => if isVoid v then logFormatOf? name else none
  | _ => none

/-! ## Sections -/

def listener? (s : Source) : Option Listener := do
  let std : Listener := {}
  return ⟨← setting s 0 "bind_address" text? std.bindAddress⟩

def backend? (s : Source) : Option Backend := do
  let std : Backend := {}
  return {
    targetUrl := ← setting s 0 "target_url" text? std.targetUrl
    forwardHeaders := ← setting s 1 "forward_headers" boolean? std.forwardHeaders
    badGatewayPage := ← setting s 2 "bad_gateway_page"
      (fun v => (text? v).map some) std.badGatewayPage }

def limits? (s : Source) : Option Limits := do
  let std : Limits := {}
  return ⟨← setting s 0 "max_request_body" natural? std.maxRequestBody⟩

def cache? (s : Source) : Option Cache := do
  let std : Cache := {}
  return {
    enabled := ← setting s 0 "enabled" boolean? std.enabled
    maxItemSize :=
      ← setting s 1 "max_cacheable_response_body" natural? std.maxItemSize
    capacity := ← setting s 2 "capacity_bytes" natural? std.capacity }

def features? (s : Source) : Option Features := do
  let std : Features := {}
  return {
    xSendfile := ← setting s 0 "x_sendfile" boolean? std.xSendfile
    gzipCompression := ← setting s 1 "gzip_compression" boolean? std.gzipCompression
    logRequests := ← setting s 2 "log_requests" boolean? std.logRequests }

def geoip? (s : Source) : Option GeoIp := do
  let std : GeoIp := {}
  return {
    enabled := ← setting s 0 "enabled" boolean? std.enabled
    databasePath := ← setting s 1 "database_path"
      (fun v => (text? v).map some) std.databasePath
    allowCountries := ← setting s 2 "allow_countries" texts? std.allowCountries
    blockCountries := ← setting s 3 "block_countries" texts? std.blockCountries }

def timeouts? (s : Source) : Option Timeouts := do
  let std : Timeouts := {}
  return ⟨← setting s 0 "request_secs" natural? std.requestSecs⟩

def observability? (s : Source) : Option Observability := do
  let std : Observability := {}
  return {
    logLevel := ← setting s 0 "log_level" text? std.logLevel
    logFormat := ← setting s 1 "log_format" logFormat? std.logFormat
    metricsEnabled := ← setting s 2 "metrics_enabled" boolean? std.metricsEnabled
    metricsAddress := ← setting s 3 "metrics_address" text? std.metricsAddress }

/-- A section of a document, or its defaults where it is missing. -/
def section? {α : Type} (es : Entries) (name : String) (read : Source → Option α)
    (standard : α) : Option α :=
  match es.find? name with
  | none => some standard
  | some v => (source? v).bind read

/-- The configuration that a document holds. -/
def ofEntries? (es : Entries) : Option Config := do
  return {
    listener := ← section? es "listener" listener? {}
    backend := ← section? es "upstream" backend? {}
    limits := ← section? es "limits" limits? {}
    cache := ← section? es "cache" cache? {}
    features := ← section? es "features" features? {}
    geoip := ← section? es "geoip" geoip? {}
    timeouts := ← section? es "timeouts" timeouts? {}
    observability := ← section? es "observability" observability? {} }

/-! ## Texts and files -/

/-- The configuration that a text writes, acceptable or not. -/
def read (text : String) : Except ReadError Config :=
  match (Toml.parse? text).bind ofEntries? with
  | some c => .ok c
  | none => .error .malformed

/-- The configuration, if it is acceptable. -/
def accept (c : Config) : Except ReadError Config :=
  if c.problems.isEmpty then .ok c else .error (.invalid c.problems)

/-- **The acceptable configuration that a text writes.** -/
def parse (text : String) : Except ReadError Config := do
  accept (← read text)

/-- The text of a file. -/
def fileText (file : Option Bytes) : Except ReadError String :=
  match file.bind Bytes.utf8? with
  | some text => .ok text
  | none => .error .unreadable

/-- The configuration in a file, acceptable or not. -/
def ofFile (file : Option Bytes) : Except ReadError Config := do
  read (← fileText file)

/-- The acceptable configuration in a file. -/
def load (file : Option Bytes) : Except ReadError Config := do
  parse (← fileText file)

end Gatehouse.Config
