import AdminConsole.Config
import AdminConsole.Wire

/-!
# The navigation report

Which sections of the console a user with given permissions could open, and where they would land
after a login. The report is a preview: nobody is logged in for it.

| here | there |
| --- | --- |
| `Report.ofNames`, `Report.toJson` | the `NavigationReport` that `csadmin-nav` fills, and its serialized form |
| `Report.text` | `to_string_pretty` of it, on a line of its own |
-/

namespace AdminConsole

structure Report where
  username : String
  landingRoute : Route
  reachable : List Navigation.Entry
  unrecognized : List String
  pollMillis : Nat
deriving DecidableEq, Repr

namespace Report

/-- A user without roles who was granted the identifiers. -/
def user (username : String) (names : List String) : UserProfile :=
  ⟨username, [], .ofNames names⟩

/-- The session that the user would have. The time of the login does not matter to the report. -/
def session (username : String) (names : List String) : Session :=
  Session.unauthenticated.apply (.authenticate (user username names) 0)

/-- The greatest number of milliseconds that a report can show. -/
def maxMillis : Nat := UInt64.size - 1

/-- The report on a user who was granted the identifiers, for the main menu. -/
def ofNames (config : Config) (username : String) (names : List String) : Report :=
  let s := session username names
  { username := username
    landingRoute := s.landingRoute .mainTabs
    reachable := s.reachableEntries .mainTabs
    unrecognized := s.permissions.unrecognized.toList
    pollMillis := min config.pollInterval.duration.millis maxMillis }

def toJson (r : Report) : Json :=
  .obj [("username", .str r.username), ("landing_route", .str r.landingRoute.path),
    ("reachable", .arr (r.reachable.map Navigation.Entry.toJson)),
    ("unrecognized_permissions", Json.strings r.unrecognized),
    ("session_poll_interval_ms", .int r.pollMillis)]

/-- The report as a text of several lines. -/
def text (r : Report) : String := r.toJson.indented 0 ++ "\n"

/-- What preparing the report writes to the log. -/
def events (username : String) (names : List String) : List LogEvent :=
  LogEvent.ofNames names ++
    Session.unauthenticated.events (.authenticate (user username names) 0)

end Report

end AdminConsole
