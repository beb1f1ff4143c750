import SoftAp.Config.Basic
import SoftAp.Platform
import SoftAp.Startup

/-!
# Failures

A call of the service fails for one of the causes below.  A caller sees a status, and for most
causes a message.
-/

namespace SoftAp

/-- The status that a caller sees. -/
inductive Status
  | success
  | unknown
  | argumentsInvalid
  | interfaceUnknown
  | interfaceExists
  | clientUnknown
  deriving DecidableEq, Repr

namespace Status

/-- The number of a status. -/
def code : Status → Nat
  | .success => 0
  | .unknown => 1
  | .argumentsInvalid => 2
  | .interfaceUnknown => 3
  | .interfaceExists => 4
  | .clientUnknown => 5

/-- The name of a status. -/
def name : Status → String
  | .success => "Success"
  | .unknown => "FailureUnknown"
  | .argumentsInvalid => "FailureArgsInvalid"
  | .interfaceUnknown => "FailureIfaceUnknown"
  | .interfaceExists => "FailureIfaceExists"
  | .clientUnknown => "FailureClientUnknown"

/-- The text of a status with an optional message. -/
def describe (status : Status) : Option String → String
  | none => status.name
  | some message => status.name ++ ": " ++ message

end Status

/-- Why a call of the service fails. -/
inductive Failure
  | unsupportedChannelCount (count : Nat)
  | bridgeUnreadable
  | tooFewInterfaces
  | oweTransitionOnLinks
  | interfaceExists
  | invalidLinkIdentity (text : String)
  | configuration (refusal : Config.Refusal)
  | configNotWritten (path : String)
  | engine (cause : EngineError)
  | instanceNotFound (name : String)
  | instanceNotEnabled
  | startup (refusal : Startup.Refusal)
  | linksNotStarted (device : String)
  | removalIncomplete
  | interfaceUnknown
  | clientUnknown
  | unknownLink (text : String)
  | linkNotRemoved
  | listenerUnreachable
  deriving DecidableEq, Repr

namespace Failure

/-- The status of a failure. -/
def status : Failure → Status
  | .unsupportedChannelCount _ => .argumentsInvalid
  | .bridgeUnreadable => .unknown
  | .tooFewInterfaces => .unknown
  | .oweTransitionOnLinks => .unknown
  | .interfaceExists => .interfaceExists
  | .invalidLinkIdentity _ => .argumentsInvalid
  | .configuration _ => .argumentsInvalid
  | .configNotWritten _ => .unknown
  | .engine _ => .unknown
  | .instanceNotFound _ => .unknown
  | .instanceNotEnabled => .unknown
  | .startup _ => .unknown
  | .linksNotStarted _ => .unknown
  | .removalIncomplete => .unknown
  | .interfaceUnknown => .interfaceUnknown
  | .clientUnknown => .clientUnknown
  | .unknownLink _ => .argumentsInvalid
  | .linkNotRemoved => .argumentsInvalid
  | .listenerUnreachable => .unknown

/-- The message of a failure, if it has one. -/
def message? : Failure → Option String
  | .unsupportedChannelCount count =>
      some ("Unsupported number of channel params: " ++ toString count)
  | .bridgeUnreadable => some "Get interfaces in bridge failed."
  | .tooFewInterfaces => some "Available interfaces less than requested bands"
  | .oweTransitionOnLinks => some "Invalid encryptionType (OWE transition) for MLO SAP."
  | .interfaceExists => none
  | .invalidLinkIdentity text => some ("Invalid link identity " ++ text)
  | .configuration refusal => some refusal.message
  | .configNotWritten path => some ("Failed to write " ++ path)
  | .engine cause => some cause.message
  | .instanceNotFound name => some ("Instance " ++ name ++ " not found after it was added")
  | .instanceNotEnabled => none
  | .startup refusal => some refusal.message
  | .linksNotStarted device => some ("Not every link of " ++ device ++ " has been started")
  | .removalIncomplete => none
  | .interfaceUnknown => none
  | .clientUnknown => none
  | .unknownLink text => some ("Unknown link " ++ text)
  | .linkNotRemoved => none
  | .listenerUnreachable => none

/-- The text of a failure. -/
def text (failure : Failure) : String :=
  failure.status.describe failure.message?

end Failure

end SoftAp
