import SmartDevice.Credential
import SmartDevice.Failure
import SmartDevice.Http.Status
import SmartDevice.Text.Blank

/-! Requests and answers. -/

namespace SmartDevice.Http

structure Request where
  method : String
  /-- Without percent signs that stand for bytes. -/
  path : String
  query : String := ""
  headers : List (String × String) := []
  body : List UInt8 := []

namespace Request

/-- Only the first header of a name counts. -/
def header? (request : Request) (name : String) : Option String :=
  Credential.header? name request.headers

/-- Whether a content type announces JSON, alone or as the form of another type. -/
def isJsonType (contentType : String) : Bool :=
  let value := (Text.cut ';' contentType.toList).1
  match Text.split '/' ((Text.strip value).map Char.toLower) with
  | [main, sub] =>
    main == "application".toList && (sub == "json".toList || "+json".toList.isSuffixOf sub)
  | _ => false

def isJson (request : Request) : Bool := ((request.header? "content-type").map isJsonType).getD false

end Request

inductive Content where
  | json (value : Json)
  | text (text : String)

structure Response where
  status : Nat
  content : Content
  /-- Where the client is to go instead. -/
  location : Option String := none
  /-- A failure that no answer was meant for. -/
  escaped : Option Failure := none
  /-- The server is to stop once the answer is sent. -/
  stops : Bool := false

namespace Response

def ok (body : Json) : Response := { status := 200, content := .json body }

def error (status : Status) (description : String) : Response :=
  { status := status.code, content := .json (errorBody status description) }

def detail (status : Nat) (text : String) : Response :=
  { status, content := .json (detailBody text) }

/-- Sends the client to another place with the same request. -/
def redirect (location : String) : Response :=
  { status := 307, content := .text "", location := some location }

def crash (failure : Failure) : Response :=
  { status := 500, content := .text "Internal Server Error", escaped := some failure }

end Response

end SmartDevice.Http
