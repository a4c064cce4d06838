import Detour.Engine.Rules

/-!
# Redirecting navigations

A navigation of a main frame to a web address redirects its tab if redirects are enabled, the tab
was not redirected lately, and some enabled rule matches; the first such rule wins. The tab is
looked at again after the rules have been read, since another navigation may have redirected it in
the meantime. Every failure on the way means that there is no redirect.

`begin` does what comes before the rules are there, `finish` the rest.
-/
namespace Detour.Redirect

def suppressed (tab : Id) : EStateM Failure (Scene World) Bool := do
  let s ← get
  let (answer, guard) := s.world.guard.isSuppressed s.millis tab
  World.change fun w => { w with guard }
  return answer

/-- Record a redirect and give the command for it to a task. -/
def record (tab : Id) (url : String) : EStateM Failure (Scene World) Unit := do
  let now := (← get).millis
  World.change fun w =>
    { w with guard := w.guard.record now tab url, redirects := ⟨tab, url, now⟩ :: w.redirects
             agenda := w.agenda.spawn (.navigate tab url) }

/-- Redirect a tab by a rule that its navigation matches, unless it has been redirected lately. -/
def redirect (n : Navigation) (r : Rule) : EStateM Failure (Scene World) Unit := do
  if !(← suppressed n.tab) then
    World.log [.about Level.alert n.tab s!"Rule \"{r.name}\" matched: {n.url} -> {r.target}"]
    record n.tab r.target

def apply (n : Navigation) (rules : List Rule) : EStateM Failure (Scene World) Unit := do
  let (found, notices) := Rule.select (some n.url) rules
  World.log (notices.map fun x => .plain Level.warning x.message)
  match found with
  | none => pure ()
  | some r => redirect n r

def finish (n : Navigation) (request : Rules.Request) : WorldHandling Unit := fun table => do
  apply n (← request.finishEnabled table)

/-- The reading of the rules that a navigation needs, if it needs any. -/
def ask (n : Navigation) : WorldHandling (Option Rules.Request) := fun table => do
  if !(World.valueIn table "redirects_enabled").isTrue then return none
  if !(n.isTopLevel && n.isWeb) then return none
  if ← suppressed n.tab then
    World.log [.about Level.debug n.tab ("Suppressed, recently redirected: " ++ n.url)]
    return none
  return some (← Rules.begin table)

/-- Handle a navigation up to where it may have to wait for the rules. -/
def begin (n : Navigation) : WorldHandling (Option (WorldHandling Unit)) := fun table => do
  match ← ask n table with
  | none => return none
  | some request =>
    if request.isHeld (← get).world then return some (finish n request)
    finish n request table
    return none

/-- Carry out the command of a redirect; a failure is logged and changes nothing else. -/
def navigate (tab : Id) (url : String) : EStateM Failure (Scene World) Unit := do
  let tabs := (← get).world.tabs
  World.change fun w => { w with tabs := tabs.issue tab url }
  World.log (tabs.notices tab url)
  match tabs.fault? with
  | none => pure ()
  | some f => World.log [.about Level.warning tab s!"Cannot navigate to {url}: {f.described}"]

end Detour.Redirect
