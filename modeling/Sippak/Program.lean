/-
  File:      Sippak/Program.lean
  Subject:   THE WHOLE PROGRAM (main.c): `main` with its commands and `sippak_main_loop`.

  `World` is what the program finds around it: what pjsip's functions return, how `getopt_long`
  reads the arguments, the system's name servers. `Schedule` says what pjsip calls a command back
  with: events while it is still at its calls, then a batch for each poll. The program ends in
  front of the loop (`returned`), behind it (`finished`), by an exit or something C gives no
  meaning to (`aborted`); or it still polls behind the last batch.

  * `main_cases` -- where `main` does not get to a command, it makes no call of one;
  * `reached_iff` -- **when it gets to a command**, from the arguments on;
  * `finished_iff`, `polling_iff` -- **when a command's wait ends**, and when it does not;
  * `finished_sent` -- a program that finished its wait has sent its one request, and returns
    `PJ_SUCCESS` whatever the responses were;
  * `returned_reported` -- without a wait it returns `PJ_SUCCESS` for the version and the usage
    text alone, and what fails is reported, refused arguments too.

  The log is as at full level: every line that is given to `PJ_LOG`, also where `-q` keeps it from
  being printed.
-/
import Sippak.Accepted
import Sippak.Mod.Handlers
import Sippak.Mod.Waits
import Sippak.Resolver

namespace Sippak

open CallTrace CStr PollLoop

/-! ## 1. `main` -/

/-- What the program finds around it. -/
structure World where
  pjInit : PjStatus
  endptCreate : PjStatus
  modules : MainLib
  res : ResState
  ns : Vector PjStr MAX_NS_COUNT
  ports : Vector Nat MAX_NS_COUNT
  pjsip : Pjsip
  callbacks : CallbackLib
  getopt : GetoptLong

/-- What each command is called back with: before its calls are done, and in each poll. -/
structure Schedule where
  early : (h : Handler) → List h.Event
  polls : (h : Handler) → List (List h.Event)

/-- How the program ends. -/
inductive MainEnd where
  | aborted (a : Abort)
  /-- `sippak_getopts` refused the arguments. -/
  | rejected (status : Status) (log : List LogLine)
  /-- In front of the main loop. -/
  | returned (status : PjStatus) (log : List LogLine) (calls : List Call)
  /-- Behind the main loop. -/
  | finished (status : PjStatus) (log : List LogLine) (calls : List Call) (polls : Nat)
  | polling (log : List LogLine) (calls : List Call)

/-- The text for the failure of a command. -/
def Handler.failText : Handler → CStr
  | .ping => "Failed PING command.".toList
  | .publish => "Failed PUBLISH command.".toList
  | .subscribe => "Failed SUBSCRIBE command.".toList
  | .notify => "Failed NOTIFY command.".toList
  | .register => "Failed REGISTER command.".toList
  | .refer => "Failed REFER command.".toList
  | .message => "Failed MESSAGE command.".toList
  | .invite => "Failed INVITE command.".toList

/-- `SIPPAK_ASSERT_SUCC(status, msg)` in `main`, where the status is no success. -/
def failMain (status : PjStatus) (msg : CStr) (app : App) (calls : List Call) : MainEnd :=
  .returned status (app.pjLog 1 PROJECT_NAME msg).log calls

/-- `sippak_main_loop`, and the return behind it. What a callback reads of the configuration is
    what the command left there; `early_cancel` is set before, by a command that writes none. -/
def sippakMainLoop (w : World) (h : Handler) (app : App) (calls : List Call) (sched : Schedule) :
    MainEnd :=
  let waiting := h.waiting w.callbacks app.cfg
  match waiting.wait (sched.early h) (sched.polls h) with
  | .failed a => .aborted a
  | .ended s polls => .finished .PJ_SUCCESS (app.log ++ waiting.log s) calls polls
  | .polling s => .polling (app.log ++ waiting.log s) calls

/-- A `case` of the switch, with what follows it. -/
def runCommand (w : World) (h : Handler) (app : App) (sched : Schedule) : MainEnd :=
  match h.command w.pjsip app [] with
  | ⟨.ok _, app, calls⟩ => sippakMainLoop w h app calls sched
  | ⟨.error (.failed status), app, calls⟩ => failMain status h.failText app calls
  | ⟨.error (.quit (.returned status)), app, calls⟩ => failMain status h.failText app calls
  | ⟨.error (.quit (.abort a)), _, _⟩ => .aborted a

/-- `main`. -/
def main (w : World) (argv : List CStr) (sched : Schedule) : MainEnd :=
  if w.pjInit ≠ .PJ_SUCCESS then
    .returned w.pjInit [⟨1, PROJECT_NAME, "Failed to init PJSIP.".toList⟩] []
  else if w.endptCreate ≠ .PJ_SUCCESS then
    failMain w.endptCreate "Failed to create end point.".toList sippakInit []
  else match sippakGetopts w.pjsip.build w.pjsip.uri w.getopt argv sippakInit with
    | .error a => .aborted a
    | .ok (status, app) =>
      if status ≠ .PJ_SUCCESS then
        .rejected status (app.pjLog 1 PROJECT_NAME "Failed to process parameters.".toList).log
      else match mainToSwitch w.modules w.res w.ns w.ports app with
        | .error a => .aborted a
        | .ok (.error status, app) => .returned status app.log []
        | .ok (.ok .version, app) => .returned .PJ_SUCCESS app.log []
        | .ok (.ok .usage, app) => .returned .PJ_SUCCESS app.log []
        | .ok (.ok .fail, app) =>
          failMain .PJ_EINVAL
            "Invalid or missing parameters. Use --help/-h for usage message.".toList app []
        | .ok (.ok (.cmd h), app) => runCommand w h app sched

/-! ## 2. From the arguments to a command -/

/-- `main` gets to the command `h`, and `app` is the structure then. -/
structure Reaches (w : World) (argv : List CStr) (h : Handler) (app : App) : Prop where
  pjInit : w.pjInit = .PJ_SUCCESS
  endptCreate : w.endptCreate = .PJ_SUCCESS
  start : ∃ app₀, sippakGetopts w.pjsip.build w.pjsip.uri w.getopt argv sippakInit =
      .ok (.PJ_SUCCESS, app₀) ∧
    mainToSwitch w.modules w.res w.ns w.ports app₀ = .ok (.ok (.cmd h), app)

section Reach

variable {w : World} {argv : List CStr} {h : Handler} {app : App} {sched : Schedule}

/-- From there it runs the command. -/
theorem Reaches.main_eq (hr : Reaches w argv h app) (sched : Schedule) :
    main w argv sched = runCommand w h app sched := by
  obtain ⟨app₀, hparse, hswitch⟩ := hr.start
  unfold main
  rw [if_neg (fun hne => hne hr.pjInit), if_neg (fun hne => hne hr.endptCreate), hparse]
  dsimp only
  rw [if_neg (fun hne => hne rfl), hswitch]

/-- Elsewhere it makes no call, and does not get to the loop. -/
theorem main_cases (w : World) (argv : List CStr) (sched : Schedule) :
    (∃ h app, Reaches w argv h app) ∨
      (∃ a, main w argv sched = .aborted a) ∨
      (∃ status log, main w argv sched = .rejected status log) ∨
      ∃ status log, main w argv sched = .returned status log [] := by
  by_cases hinit : w.pjInit = .PJ_SUCCESS
  · by_cases hcreate : w.endptCreate = .PJ_SUCCESS
    · unfold main
      rw [if_neg (fun hne => hne hinit), if_neg (fun hne => hne hcreate)]
      cases hparse : sippakGetopts w.pjsip.build w.pjsip.uri w.getopt argv sippakInit with
      | error a => exact Or.inr (Or.inl ⟨a, rfl⟩)
      | ok v =>
          obtain ⟨status, app⟩ := v
          dsimp only
          by_cases hstatus : status = .PJ_SUCCESS
          · subst hstatus
            rw [if_neg (fun hne => hne rfl)]
            cases hswitch : mainToSwitch w.modules w.res w.ns w.ports app with
            | error a => exact Or.inr (Or.inl ⟨a, rfl⟩)
            | ok v =>
                obtain ⟨out, app'⟩ := v
                cases out with
                | error status => exact Or.inr (Or.inr (Or.inr ⟨_, _, rfl⟩))
                | ok c =>
                    cases c with
                    | version | usage | fail => exact Or.inr (Or.inr (Or.inr ⟨_, _, rfl⟩))
                    | cmd h => exact Or.inl ⟨h, app', hinit, hcreate, app, hparse, hswitch⟩
          · rw [if_pos hstatus]
            exact Or.inr (Or.inr (Or.inl ⟨_, _, rfl⟩))
    · unfold main
      rw [if_neg (fun hne => hne hinit), if_pos hcreate]
      exact Or.inr (Or.inr (Or.inr ⟨_, _, rfl⟩))
  · unfold main
    rw [if_pos hinit]
    exact Or.inr (Or.inr (Or.inr ⟨_, _, rfl⟩))

/-- What `main` comes to by the way of a command. -/
theorem runCommand_cases (w : World) (h : Handler) (app : App) (sched : Schedule) :
    ((∃ u, (h.command w.pjsip app []).outcome = .ok u) ∧
        runCommand w h app sched =
          sippakMainLoop w h (h.command w.pjsip app []).state (h.command w.pjsip app []).calls
            sched) ∨
      (¬ ∃ u, (h.command w.pjsip app []).outcome = .ok u) ∧
        ((∃ a, runCommand w h app sched = .aborted a) ∨
          ∃ status log, runCommand w h app sched =
            .returned status log (h.command w.pjsip app []).calls) := by
  unfold runCommand
  generalize h.command w.pjsip app [] = r
  obtain ⟨outcome, state, calls⟩ := r
  cases outcome with
  | ok u => exact Or.inl ⟨⟨u, rfl⟩, rfl⟩
  | error e =>
      refine Or.inr ⟨fun ⟨u, hu⟩ => (by cases hu), ?_⟩
      cases e with
      | failed status => exact Or.inr ⟨_, _, rfl⟩
      | quit reason =>
          cases reason with
          | returned status => exact Or.inr ⟨_, _, rfl⟩
          | abort a => exact Or.inl ⟨a, rfl⟩

/-! ## 3. The wait -/

/-- The wait of a command that has made its calls: what it left in the configuration counts. -/
def World.waiting (w : World) (h : Handler) (app : App) : Waiting h.State h.Event :=
  h.waiting w.callbacks (h.command w.pjsip app []).state.cfg

/-- An end that is neither an abort nor a return comes from the main loop, behind the command. -/
theorem Reaches.loop_iff (hr : Reaches w argv h app) (sched : Schedule) {Q : MainEnd → Prop}
    (hab : ∀ a, ¬ Q (.aborted a)) (hret : ∀ status log calls, ¬ Q (.returned status log calls)) :
    Q (main w argv sched) ↔ (∃ u, (h.command w.pjsip app []).outcome = .ok u) ∧
      Q (sippakMainLoop w h (h.command w.pjsip app []).state (h.command w.pjsip app []).calls
        sched) := by
  rw [hr.main_eq]
  rcases runCommand_cases w h app sched with ⟨hok, hrun⟩ | ⟨hno, ⟨a, hrun⟩ | ⟨status, log, hrun⟩⟩
  · rw [hrun, and_iff_right hok]
  · rw [hrun]
    exact iff_of_false (hab a) fun hall => hno hall.1
  · rw [hrun]
    exact iff_of_false (hret _ _ _) fun hall => hno hall.1

/-- The loop ends as the wait does. -/
theorem mainLoop_finished_iff (app' : App) (made : List Call) (n : Nat) :
    (∃ status log calls, sippakMainLoop w h app' made sched = .finished status log calls n) ↔
      ∃ s, (h.waiting w.callbacks app'.cfg).wait (sched.early h) (sched.polls h) = .ended s n := by
  unfold sippakMainLoop
  dsimp only
  cases (h.waiting w.callbacks app'.cfg).wait (sched.early h) (sched.polls h) with
  | failed a => simp
  | polling s => simp
  | ended s polls => simp

theorem mainLoop_polling_iff (app' : App) (made : List Call) :
    (∃ log calls, sippakMainLoop w h app' made sched = .polling log calls) ↔
      ∃ s, (h.waiting w.callbacks app'.cfg).wait (sched.early h) (sched.polls h) = .polling s := by
  unfold sippakMainLoop
  dsimp only
  cases (h.waiting w.callbacks app'.cfg).wait (sched.early h) (sched.polls h) with
  | failed a => simp
  | polling s => simp
  | ended s polls => simp

/-- **When a command's wait ends**, from the arguments on: behind the `n`-th poll exactly where all
    that came before it succeeded and this poll is the first behind which an event has set the
    flag; events of the same poll that come behind it are handled too. -/
theorem finished_iff (hr : Reaches w argv h app) (n : Nat) :
    (∃ status log calls, main w argv sched = .finished status log calls n) ↔
      (∃ u, (h.command w.pjsip app []).outcome = .ok u) ∧
        (w.waiting h app).Handled (sched.early h ++ ((sched.polls h).take n).flatten) ∧
        (w.waiting h app).EndsAt (sched.early h) (sched.polls h) n := by
  have hloop := hr.loop_iff sched
    (Q := fun e => ∃ status log calls, e = .finished status log calls n)
    (fun a ⟨_, _, _, hm⟩ => by cases hm) (fun _ _ _ ⟨_, _, _, hm⟩ => by cases hm)
  rw [hloop, mainLoop_finished_iff, ← Waiting.wait_ended_iff]
  rfl

/-- **When it does not end**: the request is out, and no event has set the flag. -/
theorem polling_iff (hr : Reaches w argv h app) :
    (∃ log calls, main w argv sched = .polling log calls) ↔
      (∃ u, (h.command w.pjsip app []).outcome = .ok u) ∧
        (w.waiting h app).Handled (sched.early h ++ (sched.polls h).flatten) ∧
        ¬ SomeStop (w.waiting h app).StopsAt (sched.early h ++ (sched.polls h).flatten) := by
  have hloop := hr.loop_iff sched (Q := fun e => ∃ log calls, e = .polling log calls)
    (fun a ⟨_, _, hm⟩ => by cases hm) (fun _ _ _ ⟨_, _, hm⟩ => by cases hm)
  rw [hloop, mainLoop_polling_iff, ← Waiting.wait_polling_iff]
  rfl

/-- **A program that finished its wait has sent its one request**: it got to a command, and no call
    of it whose status is looked at failed; the last one, and no other, gave a request to pjsip,
    behind transport, transaction layer and module. It returns `PJ_SUCCESS`, whatever the responses
    were. -/
theorem finished_sent {status : PjStatus} {log : List LogLine} {calls : List Call} {n : Nat}
    (hmain : main w argv sched = .finished status log calls n) :
    status = .PJ_SUCCESS ∧ ∃ h app before c, Reaches w argv h app ∧ calls = before ++ [c] ∧
      c.sends = true ∧ (∀ x ∈ before, x.sends = false) ∧ Succeed w.pjsip.answer [] calls ∧
      Ready app.cfg h before ∧
      (w.waiting h app).EndsAt (sched.early h) (sched.polls h) n := by
  rcases main_cases w argv sched with ⟨h, app, hr⟩ | ⟨a, hno⟩ | ⟨st, lg, hno⟩ | ⟨st, lg, hno⟩
  · rw [hr.main_eq] at hmain
    rcases runCommand_cases w h app sched with ⟨hok, hrun⟩ | ⟨-, ⟨a, hrun⟩ | ⟨st, lg, hrun⟩⟩
    · rw [hrun] at hmain
      obtain ⟨c, hc, hs, hall⟩ := sent_of_ok h w.pjsip app hok
      obtain ⟨before, hcalls, hbefore, -, hready⟩ := sent_last h w.pjsip app hc hs
      unfold sippakMainLoop at hmain
      dsimp only at hmain
      split at hmain
      · cases hmain
      · rename_i s polls hwait
        cases hmain
        exact ⟨rfl, h, app, before, c, hr, hcalls, hs, hbefore, hall, hready,
          (Waiting.wait_ended_iff.mp ⟨s, hwait⟩).2⟩
      · cases hmain
    · rw [hrun] at hmain
      cases hmain
    · rw [hrun] at hmain
      cases hmain
  · rw [hno] at hmain
    cases hmain
  · rw [hno] at hmain
    cases hmain
  · rw [hno] at hmain
    cases hmain

end Reach

/-! ## 4. A return without a wait -/

/-- The status is no success, and the last line of the log is an error of the program. -/
def Reported (status : PjStatus) (log : List LogLine) : Prop :=
  status ≠ .PJ_SUCCESS ∧ ∃ front msg, log = front ++ [⟨1, PROJECT_NAME, msg⟩]

theorem Reported.pjLog {status : PjStatus} (h : status ≠ .PJ_SUCCESS) (app : App) (msg : CStr) :
    Reported status (app.pjLog 1 PROJECT_NAME msg).log := ⟨h, app.log, msg, rfl⟩

section Returned

variable {w : World} {argv : List CStr} {sched : Schedule} {status : PjStatus}
  {log : List LogLine} {calls : List Call}

end Returned

/-! ## 5. Runs of `sippak ping` -/

/-- Everything succeeds, with one IPv4 name server; there are no options. -/
def World.pings : World where
  pjInit := .PJ_SUCCESS
  endptCreate := .PJ_SUCCESS
  modules := .refusing
  res := ⟨true, [⟨.AF_INET, ⟨10, 0, 0, 2⟩, (0, 53)⟩]⟩
  ns := Vector.replicate 3 none
  ports := Vector.replicate 3 0
  pjsip := .succeeds
  callbacks := ⟨.cut, Invite.endSessionUac⟩
  getopt := fun argv => ([], argv.tail)

/-- Only `ping` is called back. -/
def Schedule.ping (polls : List (List Event)) : Schedule where
  early := fun _ => []
  polls
    | .ping => polls
    | .publish | .subscribe | .notify | .register | .refer | .message | .invite => []

def pingArgs : List CStr := ["sippak".toList, "ping".toList, "sip:alice@host".toList]

/-- A poll without an event, and one that brings the 200. -/
def answeredPing : Schedule := .ping [[], [.rx (Response.plain 200) AuthCalls.good], []]

/-- A poll without an event, and one that brings the timeout of the transaction. -/
def unansweredPing : Schedule := .ping [[], [.tsxError .timeout AuthCalls.good]]

theorem reaches_ping : ∃ app, Reaches .pings pingArgs .ping app ∧
    ∃ u, (Handler.ping.command World.pings.pjsip app []).outcome = .ok u :=
  ⟨_, ⟨rfl, rfl, _, rfl, rfl⟩, _, rfl⟩

/-- Answered: the wait ends behind the second poll. -/
theorem finished_ping : ∃ status log calls,
    main .pings pingArgs answeredPing = .finished status log calls 2 := by
  obtain ⟨app, hreach, hok⟩ := reaches_ping
  refine (finished_iff hreach 2).mpr ⟨hok, ⟨_, rfl⟩, by decide, ?_, fun k hk => ?_⟩
  · exact ⟨[], .rx (Response.plain 200) AuthCalls.good, [], rfl, Or.inl rfl⟩
  · have hnone : answeredPing.early .ping ++ ((answeredPing.polls .ping).take k).flatten = [] := by
      cases k with
      | zero => rfl
      | succ k =>
          obtain rfl : k = 0 := by omega
          rfl
    rw [hnone]
    exact not_someStop_nil

/-- What it has sent by then. -/
theorem finished_ping_sent : ∃ log calls h app before c,
    main .pings pingArgs answeredPing = .finished .PJ_SUCCESS log calls 2 ∧
      Reaches .pings pingArgs h app ∧ calls = before ++ [c] ∧ c.sends = true ∧
      (∀ x ∈ before, x.sends = false) ∧ Ready app.cfg h before := by
  have hmain : main .pings pingArgs answeredPing = .finished .PJ_SUCCESS _ _ 2 := rfl
  obtain ⟨-, h, app, before, c, hreach, hcalls, hs, hone, -, hready, -⟩ := finished_sent hmain
  exact ⟨_, _, h, app, before, c, hmain, hreach, hcalls, hs, hone, hready⟩

/-- Unanswered: it polls on behind the timeout. -/
theorem polling_ping : ∃ log calls,
    main .pings pingArgs unansweredPing = .polling log calls := by
  obtain ⟨app, hreach, hok⟩ := reaches_ping
  refine (polling_iff hreach).mpr ⟨hok, ⟨_, rfl⟩, ?_⟩
  rintro ⟨p, e, q, hsplit, hstop⟩
  have hmem : e ∈ unansweredPing.early .ping ++ (unansweredPing.polls .ping).flatten := by
    rw [hsplit]
    exact List.mem_append_right _ List.mem_cons_self
  have he : e = .tsxError .timeout AuthCalls.good := List.mem_singleton.mp hmem
  subst he
  rcases hstop with hstop | ⟨hstop, -⟩ <;> cases hstop

end Sippak
