import SoftAp.Options
import SoftAp.Request
import SoftAp.Text

/-!
# Instance plans

A request becomes one plan for each access point instance.  The two instances of a request share a
bridge or a multi-link device; for a network in OWE transition the first of them is open and the
second a hidden companion with a random name, and each names the other.
-/

namespace SoftAp

/-- All that one instance needs to be configured and started. -/
structure InstancePlan where
  /-- The interface of the instance, or its link identity. -/
  name : String := ""
  /-- The bridge or multi-link device, empty for a single access point. -/
  group : String := ""
  multiLink : Bool := false
  capabilities : Capabilities := {}
  channel : ChannelSpec := {}
  network : Network := {}
  /-- The other instance of an OWE transition pair, empty if there is none. -/
  owePartner : String := ""
  deriving DecidableEq, Repr

namespace InstancePlan

/-- The interface that the engine runs the instance on: all links run on their device. -/
def engineInterface (plan : InstancePlan) : String :=
  if plan.multiLink then plan.group else plan.name

/-- The instance is a member of a bridge. -/
def bridged (plan : InstancePlan) : Bool :=
  plan.group != "" && !plan.multiLink

/-- The configuration file of the instance. -/
def configFile (options : Options) (plan : InstancePlan) : String :=
  Path.configFile options.configDirectory plan.name plan.group plan.multiLink

end InstancePlan

/-- Whether a character is an ASCII letter or digit. -/
def isAlphanumeric (c : Char) : Bool :=
  ('0' ≤ c && c ≤ '9') || ('A' ≤ c && c ≤ 'Z') || ('a' ≤ c && c ≤ 'z')

/-- The random part of a companion's network name: eight ASCII letters and digits. -/
structure CompanionTag where
  chars : List Char
  length_chars : chars.length = 8
  alphanumeric_chars : chars.all isAlphanumeric = true
  deriving DecidableEq, Repr

/-- The network name of the hidden companion of an OWE transition pair. -/
def CompanionTag.ssid (tag : CompanionTag) : List UInt8 :=
  Text.utf8Bytes ("Owe-" ++ String.ofList tag.chars)

namespace Request

/-- The plan of a single access point. -/
def singlePlan (request : Request) (network : Network) (channel : ChannelSpec) : InstancePlan :=
  { name := request.name
    multiLink := request.multiLink
    capabilities := request.capabilities
    channel := channel
    network := network }

/-- The plan of an instance that shares the bridge or device of its request. -/
def memberPlan (request : Request) (network : Network) (channel : ChannelSpec) (member : String) :
    InstancePlan :=
  { name := member
    group := request.name
    multiLink := request.multiLink
    capabilities := request.capabilities
    channel := channel
    network := network }

/-- The plans of two instances.  In OWE transition the first offers the network without protection
and the second is its hidden companion. -/
def pairPlans (request : Request) (network : Network) (tag : CompanionTag)
    (firstChannel secondChannel : ChannelSpec) (firstMember secondMember : String) :
    List InstancePlan :=
  match network.security with
  | .oweTransition =>
      [{ request.memberPlan { network with security := .unprotected } firstChannel firstMember with
          owePartner := secondMember },
       { request.memberPlan { network with hidden := true, ssid := tag.ssid } secondChannel
          secondMember with owePartner := firstMember }]
  | _ =>
      [request.memberPlan network firstChannel firstMember,
       request.memberPlan network secondChannel secondMember]

end Request

end SoftAp
