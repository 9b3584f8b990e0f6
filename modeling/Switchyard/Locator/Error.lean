/-
How discovery fails.
-/
import Switchyard.Endpoint

namespace Switchyard

/-- Why a page could not be fetched. -/
inductive FetchError where
  /-- The text is no URL. -/
  | noUrl (cause : String)
  /-- The URL cannot be fetched. -/
  | unusable (url cause : String)
  /-- No answer arrived. -/
  | failed (url cause : String)
  /-- No answer arrived in time. -/
  | timedOut (url : String)
  /-- The answer reports an error; `reason` is the name of its status. -/
  | status (url : String) (code : Nat) (reason : String)
  /-- The answer does not read as what was asked for. -/
  | unreadable (cause : String)
deriving DecidableEq, Repr

def FetchError.message : FetchError → String
  | .noUrl cause => "builder error: " ++ cause
  | .unusable url cause => "builder error for url (" ++ url ++ "): " ++ cause
  | .failed url cause => "error sending request for url (" ++ url ++ "): " ++ cause
  | .timedOut url => "error sending request for url (" ++ url ++ "): operation timed out"
  | .status url code reason =>
    "HTTP status " ++ (if code < 500 then "client" else "server") ++ " error (" ++ toString code ++
      (if reason.isEmpty then "" else " " ++ reason) ++ ") for url (" ++ url ++ ")"
  | .unreadable cause => "error decoding response body: " ++ cause

/-- Why a locator has no answer. -/
inductive LocatorError where
  | http (cause : FetchError)
  | invalidEndpoint (cause : EndpointError)
  | unavailable (message : String)
deriving DecidableEq

def LocatorError.message : LocatorError → String
  | .http cause => "discovery request failed: " ++ cause.message
  | .invalidEndpoint cause => cause.message
  | .unavailable message => "discovery source unavailable: " ++ message

end Switchyard
