/-!
# Answer codes

The three-digit codes of answers with the phrases that explain them.
-/

namespace HardwareIndex

/-- An answer code. -/
structure StatusCode where
  code : Nat
  deriving DecidableEq, Repr

namespace StatusCode

/-- The answer holds what was asked for. -/
def ok : StatusCode := ⟨200⟩

/-- The question has no single answer. -/
def badRequest : StatusCode := ⟨400⟩

/-- Nothing is there. -/
def notFound : StatusCode := ⟨404⟩

/-- The path has no such method. -/
def methodNotAllowed : StatusCode := ⟨405⟩

/-- No acceptable answer can be given yet. -/
def notAcceptable : StatusCode := ⟨406⟩

/-- The service cannot answer. -/
def serviceUnavailable : StatusCode := ⟨503⟩

/-- Whether a code tells success. -/
def isSuccess (s : StatusCode) : Bool :=
  200 ≤ s.code && s.code < 300

/-- The known codes with their phrases. -/
def phrases : List (Nat × String) := [
  (100, "Continue"),
  (101, "Switching Protocols"),
  (102, "Processing"),
  (103, "Early Hints"),
  (200, "OK"),
  (201, "Created"),
  (202, "Accepted"),
  (203, "Non Authoritative Information"),
  (204, "No Content"),
  (205, "Reset Content"),
  (206, "Partial Content"),
  (207, "Multi-Status"),
  (208, "Already Reported"),
  (226, "IM Used"),
  (300, "Multiple Choices"),
  (301, "Moved Permanently"),
  (302, "Found"),
  (303, "See Other"),
  (304, "Not Modified"),
  (305, "Use Proxy"),
  (307, "Temporary Redirect"),
  (308, "Permanent Redirect"),
  (400, "Bad Request"),
  (401, "Unauthorized"),
  (402, "Payment Required"),
  (403, "Forbidden"),
  (404, "Not Found"),
  (405, "Method Not Allowed"),
  (406, "Not Acceptable"),
  (407, "Proxy Authentication Required"),
  (408, "Request Timeout"),
  (409, "Conflict"),
  (410, "Gone"),
  (411, "Length Required"),
  (412, "Precondition Failed"),
  (413, "Payload Too Large"),
  (414, "URI Too Long"),
  (415, "Unsupported Media Type"),
  (416, "Range Not Satisfiable"),
  (417, "Expectation Failed"),
  (418, "I'm a teapot"),
  (421, "Misdirected Request"),
  (422, "Unprocessable Entity"),
  (423, "Locked"),
  (424, "Failed Dependency"),
  (425, "Too Early"),
  (426, "Upgrade Required"),
  (428, "Precondition Required"),
  (429, "Too Many Requests"),
  (431, "Request Header Fields Too Large"),
  (451, "Unavailable For Legal Reasons"),
  (500, "Internal Server Error"),
  (501, "Not Implemented"),
  (502, "Bad Gateway"),
  (503, "Service Unavailable"),
  (504, "Gateway Timeout"),
  (505, "HTTP Version Not Supported"),
  (506, "Variant Also Negotiates"),
  (507, "Insufficient Storage"),
  (508, "Loop Detected"),
  (510, "Not Extended"),
  (511, "Network Authentication Required")]

/-- A code with its phrase. -/
def text (s : StatusCode) : String :=
  toString s.code ++ " " ++ (phrases.lookup s.code).getD "<unknown status code>"

end StatusCode

end HardwareIndex
