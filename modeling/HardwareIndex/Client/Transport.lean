import HardwareIndex.Http.Status
import HardwareIndex.Http.Uri
import HardwareIndex.Text.Utf8
import HardwareIndex.Url.Basic

/-!
# Requests to a server

What a client sends and what comes back. A transport either delivers a reply or
fails, with the causes of the failure from the outermost one inwards. The body of
a reply is octets, which may break off before their end.
-/

namespace HardwareIndex

/-- What a server sends back. -/
structure ServerReply where
  status : StatusCode
  /-- The octets of the body, if all of them arrive. -/
  body : Option (List UInt8)
  deriving DecidableEq, Repr

/-- A reply whose body is a text. -/
def ServerReply.ofText (status : StatusCode) (text : String) : ServerReply :=
  ⟨status, some (Text.Utf8.bytes text)⟩

@[simp] theorem ServerReply.status_ofText (status : StatusCode) (text : String) :
    (ofText status text).status = status :=
  rfl

@[simp] theorem ServerReply.body_ofText (status : StatusCode) (text : String) :
    (ofText status text).body = some (Text.Utf8.bytes text) :=
  rfl

/-- A request that got no reply, with the causes from the outermost inwards. -/
structure TransportFault where
  causes : List String
  deriving DecidableEq, Repr

/-- What a request to an address brings. -/
abbrev Transport := Url → Except TransportFault ServerReply

namespace TransportFault

/-- The outermost cause. -/
def message (f : TransportFault) : String :=
  f.causes.headD "request failed"

/-- No server can be reached. -/
def unreachable (url : Url) : TransportFault := ⟨[
  s!"error sending request for url ({url.withoutUser})",
  "client error (Connect)",
  "tcp connect error",
  "Network is unreachable (os error 101)"]⟩

/-- The name of the server cannot be resolved. -/
def unresolved (url : Url) : TransportFault := ⟨[
  s!"error sending request for url ({url.withoutUser})",
  "client error (Connect)",
  "dns error",
  "failed to lookup address information: Temporary failure in name resolution"]⟩

/-- The scheme is not one of requests. -/
def badScheme (url : Url) : TransportFault := ⟨[
  s!"builder error for url ({url.withoutUser})",
  "URL scheme is not allowed"]⟩

/-- The address cannot be the target of a request. -/
def badTarget (url : Url) : TransportFault := ⟨[
  s!"builder error for url ({url.withoutUser})",
  "Parsed Url is not a valid Uri"]⟩

end TransportFault

/-- Whether a host is known without asking anyone: by its address, or as the local one. -/
def UrlHost.isResolved : UrlHost → Bool
  | .named name => name == "localhost"
  | _ => true

/-- A transport where no server can be reached. -/
def Transport.offline : Transport := fun url =>
  if url.scheme != "http" && url.scheme != "https" then .error (.badScheme url)
  else if (Target.parse? url.withoutUser.text).isNone then .error (.badTarget url)
  else if url.host.any UrlHost.isResolved then .error (.unreachable url)
  else .error (.unresolved url)

end HardwareIndex
