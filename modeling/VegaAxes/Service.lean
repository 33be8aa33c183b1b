import VegaAxes.Compile
import VegaAxes.Json.Bytes
import VegaAxes.Service.Route
import VegaAxes.Text.UpperCase

/-!
# The compile service

One route tells that the service is up, another compiles the axes of a request
into its document. A request that cannot be read is answered with its problems, a
document that is malformed or names an unknown word with a message. The pages
that describe the service are not kept here, and are answered without content.
-/

namespace VegaAxes.Service

inductive Body where
  | json (v : Json)
  | text (s : String)

structure Request where
  method : String
  target : String
  body : Body

inductive Content where
  | json (v : Json)
  | problems (ps : List Problem)
  | text (s : String)

structure Response where
  status : Nat
  content : Content

def failure : Response :=
  ⟨500, .text "Internal Server Error"⟩

mutual
/-- Whether a value can be sent: its texts consist of characters, its floats are finite, and its
integers are not too long. -/
def isSendable : Json → Bool
  | .str s => Text.isWhole s
  | .float x => match Decimal.magnitude x with
    | .finite _ _ => true
    | _ => false
  | .int n => n.natAbs < Decimal.tenTo Decimal.maxIntegerDigits
  | .arr items => areSendable items
  | .obj fields => haveSendable fields
  | _ => true
def areSendable : List Json → Bool
  | [] => true
  | v :: vs => isSendable v && areSendable vs
def haveSendable : List (String × Json) → Bool
  | [] => true
  | (key, v) :: fs => Text.isWhole key && isSendable v && haveSendable fs
end

def detail (status : Nat) (message : String) : Response :=
  if Text.isWhole message then ⟨status, .json (.obj [("detail", .str message)])⟩ else failure

def invalid (ps : List Problem) : Response :=
  if ps.all fun p => p.path.all Text.isWhole && isSendable p.value then
    ⟨422, .problems (ps.map (Problem.under "body"))⟩
  else failure

structure CompileRequest where
  document : Fields
  axes : List AxisOptions
  orientation : Option Orientation
  colorScheme : Option ColorScheme

def CompileRequest.reader : RecordReader CompileRequest :=
  (RecordReader.pure CompileRequest.mk)
    |>.field "spec" "spec" [] .object
    |>.required "axes" "axes" (.list (AxisOptions.read .request))
    |>.field "chartOrientation" "chart_orientation" none (.optional .word)
    |>.field "colorScheme" "color_scheme" none (.optional .word)

inductive Received where
  | value (v : Json)
  | invalid (ps : List Problem)
  | unreadable

def bodyLimits : Json.ReadLimits :=
  ⟨Decimal.maxIntegerDigits, 950⟩

/-- The value that a body holds. An empty text holds none; null is a value. -/
def Body.received : Body → Received
  | json v => .value v
  | text s =>
    if s = "" then .invalid [⟨[], .missing, .null⟩]
    else match Json.Bytes.received? (Text.letters s) with
      | none => .unreadable
      | some letters =>
        match Json.read (Text.ofLetters letters) bodyLimits with
        | .ok v => .value v
        | .error .beyondLimits => .unreadable
        | .error (.unexpected offset) => .invalid [⟨[toString offset], .jsonInvalid, .obj []⟩]

def CompileRequest.read : Json → Checked CompileRequest :=
  CompileRequest.reader.lenient .modelAttributesType

mutual
def finite : Json → Json
  | .float x => match Decimal.magnitude x with
    | .finite _ _ => .float x
    | _ => .null
  | .arr items => .arr (finiteItems items)
  | .obj fields => .obj (finiteFields fields)
  | v => v
def finiteItems : List Json → List Json
  | [] => []
  | v :: vs => finite v :: finiteItems vs
def finiteFields : List (String × Json) → List (String × Json)
  | [] => []
  | (key, v) :: fs => (key, finite v) :: finiteFields fs
end

mutual
def nesting : Json → Nat
  | .arr items => nestingOfItems items + 1
  | .obj fields => nestingOfFields fields + 1
  | _ => 1
def nestingOfItems : List Json → Nat
  | [] => 0
  | v :: vs => max (nesting v) (nestingOfItems vs)
def nestingOfFields : List (String × Json) → Nat
  | [] => 0
  | (_, v) :: fs => max (nesting v) (nestingOfFields fs)
end

/-- Documents whose fields are nested more deeply are not sent. -/
def maxNesting : Nat := 255

def compiled (c : Compiled) : Response :=
  let document := finite c.document.toJson
  if isSendable document && nesting document ≤ maxNesting + 1 then
    ⟨200, .json (.obj [("spec", document), ("axis_count", .int c.axisCount),
      ("mark_count", .int c.markCount)])⟩
  else failure

def compile (settings : Settings) (r : CompileRequest) : Response :=
  match Context.forDocument settings (Fields.getD r.document "usermeta") r.orientation
      r.colorScheme with
  | .error (.unknownWord vocabulary given) =>
    detail 400 (Error.unknownWord vocabulary given).message
  | .error _ => failure
  | .ok context =>
    match compileAxes settings (.obj r.document) r.axes (some context)
        (some settings.validateOutput) with
    | .ok c => compiled c
    | .error (.malformed defect) => detail 422 defect.message
    | .error _ => failure

def answerCompile (settings : Settings) (body : Body) : Response :=
  match body.received with
  | .unreadable => detail 400 "There was an error parsing the body"
  | .invalid ps => invalid ps
  | .value v =>
    match CompileRequest.read v with
    | .bad ps => invalid ps
    | .ok r => compile settings r

def answer (settings : Settings) (method target : String) (body : Body) : Response :=
  match Route.ofTarget? target with
  | none => detail 404 "Not Found"
  | some route =>
    if method ∉ route.methods then detail 405 "Method Not Allowed"
    else match route with
      | .health => ⟨200, .json (.obj [("status", .str "ok")])⟩
      | .compile => answerCompile settings body
      | .description => ⟨200, .text ""⟩

/-- Methods are compared in capitals; the answer to a HEAD request is sent without its content. -/
def handle (settings : Settings) (r : Request) : Response :=
  let method := Text.upperCase r.method
  let response := answer settings method r.target r.body
  if method = "HEAD" then { response with content := .text "" } else response

end VegaAxes.Service
