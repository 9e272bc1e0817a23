import SmartDevice.Json.Display

/-! Status codes with their phrases, and the bodies that answers share. -/

namespace SmartDevice.Http

structure Status where
  code : Nat
  phrase : String
  deriving DecidableEq, Repr

namespace Status

/-- Every code that has a phrase. -/
def all : List Status :=
  [⟨100, "Continue"⟩, ⟨101, "Switching Protocols"⟩, ⟨102, "Processing"⟩, ⟨103, "Early Hints"⟩,
    ⟨200, "OK"⟩, ⟨201, "Created"⟩, ⟨202, "Accepted"⟩, ⟨203, "Non-Authoritative Information"⟩,
    ⟨204, "No Content"⟩, ⟨205, "Reset Content"⟩, ⟨206, "Partial Content"⟩, ⟨207, "Multi-Status"⟩,
    ⟨208, "Already Reported"⟩, ⟨226, "IM Used"⟩, ⟨300, "Multiple Choices"⟩,
    ⟨301, "Moved Permanently"⟩, ⟨302, "Found"⟩, ⟨303, "See Other"⟩, ⟨304, "Not Modified"⟩,
    ⟨305, "Use Proxy"⟩, ⟨307, "Temporary Redirect"⟩, ⟨308, "Permanent Redirect"⟩,
    ⟨400, "Bad Request"⟩, ⟨401, "Unauthorized"⟩, ⟨402, "Payment Required"⟩, ⟨403, "Forbidden"⟩,
    ⟨404, "Not Found"⟩, ⟨405, "Method Not Allowed"⟩, ⟨406, "Not Acceptable"⟩,
    ⟨407, "Proxy Authentication Required"⟩, ⟨408, "Request Timeout"⟩, ⟨409, "Conflict"⟩,
    ⟨410, "Gone"⟩, ⟨411, "Length Required"⟩, ⟨412, "Precondition Failed"⟩,
    ⟨413, "Request Entity Too Large"⟩, ⟨414, "Request-URI Too Long"⟩,
    ⟨415, "Unsupported Media Type"⟩, ⟨416, "Requested Range Not Satisfiable"⟩,
    ⟨417, "Expectation Failed"⟩, ⟨418, "I'm a Teapot"⟩, ⟨421, "Misdirected Request"⟩,
    ⟨422, "Unprocessable Entity"⟩, ⟨423, "Locked"⟩, ⟨424, "Failed Dependency"⟩,
    ⟨425, "Too Early"⟩, ⟨426, "Upgrade Required"⟩, ⟨428, "Precondition Required"⟩,
    ⟨429, "Too Many Requests"⟩, ⟨431, "Request Header Fields Too Large"⟩,
    ⟨451, "Unavailable For Legal Reasons"⟩, ⟨500, "Internal Server Error"⟩,
    ⟨501, "Not Implemented"⟩, ⟨502, "Bad Gateway"⟩, ⟨503, "Service Unavailable"⟩,
    ⟨504, "Gateway Timeout"⟩, ⟨505, "HTTP Version Not Supported"⟩,
    ⟨506, "Variant Also Negotiates"⟩, ⟨507, "Insufficient Storage"⟩, ⟨508, "Loop Detected"⟩,
    ⟨510, "Not Extended"⟩, ⟨511, "Network Authentication Required"⟩]

/-- A value that is no code of a status. -/
structure Unknown where
  value : Json

def Unknown.message (e : Unknown) : String :=
  String.ofList e.value.displayInner ++ " is not a valid HTTPStatus"

def ofJson (value : Json) : Except Unknown Status :=
  match value with
  | .integer n =>
    match all.find? fun status => (status.code : Int) = n with
    | some status => .ok status
    | none => .error ⟨value⟩
  | _ => .error ⟨value⟩

def badRequest : Status := ⟨400, "Bad Request"⟩
def unauthorized : Status := ⟨401, "Unauthorized"⟩
def notFound : Status := ⟨404, "Not Found"⟩
def internalError : Status := ⟨500, "Internal Server Error"⟩
def unavailable : Status := ⟨503, "Service Unavailable"⟩

end Status

/-! ## Bodies -/

/-- Tells what went wrong. -/
def errorBody (status : Status) (description : String) : Json :=
  .object [("error", .object
    [("code", .integer status.code), ("reason", .string status.phrase),
      ("description", .string description)])]

/-- Tells that a command was carried out. -/
def okBody (message : String) : Json :=
  .object [("code", .integer 200), ("message", .string message)]

/-- Tells what the server itself makes of a request that reaches no service. -/
def detailBody (detail : String) : Json := .object [("detail", .string detail)]

end SmartDevice.Http
