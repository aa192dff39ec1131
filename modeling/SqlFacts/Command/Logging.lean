import SqlFacts.Command.World

/-!
# Logging on a host

The descriptors of a command are logged one behind another, and then the journal is cleaned up. The
first request that the disk refuses ends it, and so does a retention time that the calendar does
not reach back for. What was done until then stays.
-/

namespace SqlFacts.Command

/-- The session behind some requests, or why they broke off and the session as it is by then. -/
abbrev Logged := Except (Escape × Session) Session

/-- The session behind requests, however far they came. -/
def Logged.session : Logged → Session
  | .ok session => session
  | .error (_, session) => session

namespace Host

/-- Breaks off with the session as it is if the disk refuses a request. -/
def ask (host : Host) (request : DiskRequest) (session : Session) :
    Except (Escape × Session) Unit :=
  if host.refuses request then .error (.refused request, session) else .ok ()

/-- Logs a descriptor: the directory is made, and a line is added to the file of the day. -/
def log (host : Host) (dialect : String) (session : Session) (d : Descriptor) : Logged := do
  host.ask (.makeDirectory session.directory) session
  host.ask (.addLine session.directory session.todayFile session.todayLines) session.makeDirectory
  return session.log (some dialect) d

/-- Deletes what is past the retention time, one file behind another. -/
def cleanup (host : Host) (retentionDays : Int) (session : Session) : Logged := do
  host.ask (.listFiles session.directory) session
  match session.cleanup retentionDays with
  | .error .outsideCalendar => .error (.outsideCalendar, session)
  | .ok (_, clean) =>
    let stale := session.staleFiles retentionDays
    match stale.find? fun file => host.refuses (.delete session.directory file) with
    | none => return clean
    | some file =>
      .error (.refused (.delete session.directory file),
        session.deleteFiles (stale.takeWhile (· != file)))

/-- Logs descriptors and deletes what is past the retention time. -/
def logAll (host : Host) (config : Config) (dialect : String) (session : Session)
    (list : List Descriptor) : Logged := do
  let session ← list.foldlM (host.log dialect) session
  host.cleanup config.logRetentionDays session

end Host

end SqlFacts.Command
