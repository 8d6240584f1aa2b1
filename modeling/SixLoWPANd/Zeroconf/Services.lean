import SixLoWPANd.Foundation.GuardedRuns
import SixLoWPANd.JennicModule.Daemon

/-!
# The service announcer

The callbacks with which the Zeroconf thread follows its Avahi client.  Avahi
answers for itself: whether a group could be made, whether it is empty, and
what became of each record.  What the group holds is read off the operations on
it; the documentation of Avahi says when a group counts as empty.
-/

namespace SixLoWPANd.Zeroconf

open SixLoWPANd.Foundation
open SixLoWPANd.JennicModule

def logWarning : Nat := 4

/-! ## Entry groups -/

/-- A record of an entry group. -/
inductive Record where
  | address (n : String) (sAddress : In6Addr)
  | service (name type host : String) (port : Nat)
  deriving DecidableEq

/-- What happens to the entry group. -/
inductive GroupEvent where
  | made
  /-- The answer to the question whether it is empty. -/
  | asked (empty : Bool)
  | added (record : Record)
  | committed
  | wasReset
  /-- Another host has one of the names. -/
  | withdrawn
  | freed
  deriving DecidableEq

/-- The records of a group, newest first. -/
structure Contents where
  records : List Record
  committed : Bool
  deriving DecidableEq

def Contents.nothing : Contents := ⟨[], false⟩

/-- What the group holds behind the events, newest first. -/
def contents : List GroupEvent → Contents
  | [] => .nothing
  | .asked _ :: past => contents past
  | .added record :: past =>
      ⟨record :: (contents past).records, (contents past).committed⟩
  | .committed :: past => ⟨(contents past).records, true⟩
  | .made :: _ | .wasReset :: _ | .withdrawn :: _ | .freed :: _ => .nothing

/-- A group counts as empty exactly if no record has been added since it was
made, reset or withdrawn. -/
def documented : List GroupEvent → Bool
  | [] => true
  | .asked empty :: past =>
      (empty == (contents past).records.isEmpty) && documented past
  | _ :: past => documented past

/-! ## The announcer -/

/-- The functions of the libraries that compute. -/
structure Avahi where
  inetPton : String → Option In6Addr
  alternativeHostName : String → String
  alternativeServiceName : String → String
  strerror : Int → String
  /-- `AVAHI_ERR_COLLISION`. -/
  errCollision : Int

/-- The variables of the Zeroconf thread. -/
structure Announcer where
  /-- Whether there is a group. -/
  group : Bool
  name : String
  hostname : String
  address : String
  /-- Whether the loop has been told to quit. -/
  quit : Bool
  /-- The events of the group, newest first. -/
  events : List GroupEvent
  syslog : List (Nat × String)
  deriving DecidableEq

namespace Announcer

/-- The announcer of a registration. -/
def start (registration : Registration) : Announcer where
  group := false
  name := registration.name
  hostname := registration.hostname
  address := registration.address
  quit := false
  events := []
  syslog := []

def daemonLog (announcer : Announcer) (priority : Nat) (text : String) :
    Announcer :=
  { announcer with syslog := (priority, text) :: announcer.syslog }

def record (announcer : Announcer) (event : GroupEvent) : Announcer :=
  { announcer with events := event :: announcer.events }

/-- `avahi_simple_poll_quit`. -/
def simplePollQuit (announcer : Announcer) : Announcer :=
  { announcer with quit := true }

/-- Pick new names. -/
def rename (avahi : Avahi) (announcer : Announcer) : Announcer :=
  { announcer with
    hostname := avahi.alternativeHostName announcer.hostname
    name := avahi.alternativeServiceName announcer.name }

end Announcer

/-- The answers to one pass through `create_services`. -/
structure Pass where
  /-- An error of the client, if no group could be made. -/
  groupNew : Except Int Unit
  isEmpty : Bool
  addAddress : Int
  addService : Int
  commit : Int

/-- How a pass goes on. -/
inductive PassEnd where
  | returns
  | fails
  | collides
  deriving DecidableEq

/-- Add the entries to an empty group. -/
def addEntries (avahi : Avahi) (pass : Pass) (announcer : Announcer) :
    PassEnd × Announcer :=
  let n := announcer.hostname ++ ".local"
  let hostAdding :=
    announcer.daemonLog logDebug ("Adding hostname '" ++ n ++ "'")
  match avahi.inetPton announcer.address with
  | none =>
      (.fails,
        hostAdding.daemonLog logWarning "Error converting string to address")
  | some sAddress =>
      if pass.addAddress < 0 then
        (.fails,
          hostAdding.daemonLog logWarning
            ("Failed to add hostname: " ++
              avahi.strerror pass.addAddress))
      else
        let serviceAdding :=
          (hostAdding.record (.added (.address n sAddress))).daemonLog
            logDebug ("Adding service '" ++ announcer.name ++ "'")
        if pass.addService < 0 then
          if pass.addService = avahi.errCollision then
            (.collides, serviceAdding)
          else
            (.fails,
              serviceAdding.daemonLog logWarning
                ("Failed to add _jip._udp service: " ++
                  avahi.strerror pass.addService))
        else
          let added :=
            serviceAdding.record
              (.added (.service announcer.name "_jip._udp" n 1873))
          if pass.commit < 0 then
            (.fails,
              added.daemonLog logWarning
                ("Failed to commit entry group: " ++
                  avahi.strerror pass.commit))
          else
            (.returns, added.record .committed)

/-- Add the entries, if the group is empty. -/
def fillGroup (avahi : Avahi) (pass : Pass) (announcer : Announcer) :
    PassEnd × Announcer :=
  let answered := announcer.record (.asked pass.isEmpty)
  if pass.isEmpty then addEntries avahi pass answered
  else (.returns, answered)

/-- One pass through `create_services`. -/
def createPass (avahi : Avahi) (pass : Pass) (announcer : Announcer) :
    PassEnd × Announcer :=
  if announcer.group then
    fillGroup avahi pass announcer
  else
    match pass.groupNew with
    | .error errno =>
        (.fails,
          announcer.daemonLog logWarning
            ("avahi_entry_group_new() failed: " ++ avahi.strerror errno))
    | .ok _ =>
        fillGroup avahi pass
          ({ announcer with group := true }.record .made)

/-- `create_services` calls itself behind a collision on this host.  There is
no result as long as answers are missing. -/
def createServices (avahi : Avahi) :
    List Pass → Announcer → Option Announcer
  | [], _ => none
  | pass :: passes, announcer =>
      match createPass avahi pass announcer with
      | (.returns, after) => some after
      | (.fails, after) => some after.simplePollQuit
      | (.collides, after) =>
          let renamed := after.rename avahi
          createServices avahi passes
            ((renamed.daemonLog logWarning
              ("Service name collision, renaming service to '" ++
                renamed.name ++ "'")).record .wasReset)

/-! ## The callbacks -/

/-- `AvahiEntryGroupState`, a failure with its error. -/
inductive EntryGroupState where
  | uncommited
  | registering
  | established
  | collision
  | failure (errno : Int)
  deriving DecidableEq

/-- `AvahiClientState`, a failure with its error. -/
inductive ClientState where
  | registering
  | running
  | collision
  | failure (errno : Int)
  | connecting
  | unhandled (state : Int)
  deriving DecidableEq

def entryGroupCallback (avahi : Avahi) (state : EntryGroupState)
    (passes : List Pass) (announcer : Announcer) : Option Announcer :=
  let grouped := { announcer with group := true }
  match state with
  | .registering =>
      some
        (grouped.daemonLog logDebug
          ("Registering Service '" ++ announcer.name ++ "' on host '" ++
            announcer.hostname ++ "'."))
  | .established =>
      some
        (grouped.daemonLog logInfo
          ("Service '" ++ announcer.name ++
            "' successfully established on host '" ++ announcer.hostname ++
            "'."))
  | .collision =>
      let renamed := (grouped.record .withdrawn).rename avahi
      createServices avahi passes
        (renamed.daemonLog logInfo
          ("Service name collision, renaming service to '" ++
            renamed.name ++ "' on host '" ++ renamed.hostname ++ "'"))
  | .failure errno =>
      some
        (grouped.daemonLog logWarning
          ("Entry group failure: " ++
            avahi.strerror errno)).simplePollQuit
  | .uncommited => some grouped

def clientCallback (avahi : Avahi) (state : ClientState)
    (passes : List Pass) (announcer : Announcer) : Option Announcer :=
  match state with
  | .running => createServices avahi passes announcer
  | .failure errno =>
      some
        (announcer.daemonLog logWarning
          ("Client failure: " ++ avahi.strerror errno)).simplePollQuit
  | .collision | .registering =>
      some (if announcer.group then announcer.record .wasReset else announcer)
  | .connecting =>
      some (announcer.daemonLog logDebug "Connecting to Avahi daemon")
  | .unhandled state =>
      some
        (announcer.daemonLog logDebug
          ("Unhandled client state " ++ toString state))

/-- What `pvZC_Thread` does between two loops of the client. -/
def restartClient (announcer : Announcer) : Announcer :=
  let terminated := announcer.daemonLog logInfo "Avahi client terminated"
  let cleaned :=
    if announcer.group then
      { terminated.record .freed with group := false }
    else
      terminated
  { cleaned.daemonLog logDebug "Starting avahi client." with quit := false }

/-- What happens to the Zeroconf thread. -/
inductive Happening where
  | client (state : ClientState) (passes : List Pass)
  | entryGroup (state : EntryGroupState) (passes : List Pass)
  | restart

def react (avahi : Avahi) (announcer : Announcer) :
    Happening → Option Announcer
  | .client state passes => clientCallback avahi state passes announcer
  | .entryGroup state passes =>
      entryGroupCallback avahi state passes announcer
  | .restart => some (restartClient announcer)

/-- The announcer behind the callbacks, if all of them have returned. -/
def announce (avahi : Avahi) (registration : Registration)
    (happenings : List Happening) : Option Announcer :=
  guardedRun (react avahi) (.start registration) happenings

end SixLoWPANd.Zeroconf
