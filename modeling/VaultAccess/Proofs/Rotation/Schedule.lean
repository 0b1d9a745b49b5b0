import VaultAccess.Proofs.Rotation.Settings
import VaultAccess.Proofs.Rotation.Starting
import VaultAccess.Rotation.Timeline

/-!
# The schedule of a loop

A loop sleeps, rotates and sleeps again. What is heard of it is when its rotations begin and end,
and with what delay each of them ends. `Rhythm` says how this goes along with the phases of the
loop: a rotation begins at the very instant at which the sleep before it is over, and the sleep
after it is as long as the delay that it returned. Since the two kinds of beat alternate, a loop's
rotations never overlap, and none is left out or made twice. That a loop listens for a stop and that
it looks at the flag is not heard.

Two facts about a manager that runs carry this (`Transition.beats`). Time does not pass the end of a
sleep, so a loop that wakes is never late; and whatever a fetch ends in, the loop goes to sleep.

A loop of a pool that was just created is a loop like any other. That creating a pool fetches once,
and starts nothing where it fails, is read off `Timeline.create`.
-/

namespace VaultAccess.Rotation

/-- What is heard of a loop. -/
inductive Beat where
  /-- A rotation begins. -/
  | begun (now : Instant)
  /-- A rotation ends and returns the delay until the next. -/
  | ended (now : Instant) (delay : UInt64)

/-- What is heard of a loop takes it from one phase to another, exactly on time. -/
inductive Rhythm : Phase → List Beat → Phase → Prop
  | still {p : Phase} : Rhythm p [] p
  | listens {wake : Instant} {beats : List Beat} {p : Phase}
      (h : Rhythm (.sleeping wake) beats p) : Rhythm (.starting wake) beats p
  | wakes {wake : Instant} {beats : List Beat} {p : Phase} (h : Rhythm (.due wake) beats p) :
      Rhythm (.sleeping wake) beats p
  | begun {wake : Instant} {beats : List Beat} {p : Phase} (h : Rhythm .rotating beats p) :
      Rhythm (.due wake) (.begun wake :: beats) p
  | ended {now : Instant} {delay : UInt64} {beats : List Beat} {p : Phase}
      (h : Rhythm (.sleeping (now.after (Instant.ofSeconds delay))) beats p) :
      Rhythm .rotating (.ended now delay :: beats) p

theorem Rhythm.append {p q r : Phase} {beats more : List Beat} (h : Rhythm p beats q)
    (hmore : Rhythm q more r) : Rhythm p (beats ++ more) r := by
  induction h with
  | still => exact hmore
  | listens _ ih => exact .listens (ih hmore)
  | wakes _ ih => exact .wakes (ih hmore)
  | begun _ ih => exact .begun (ih hmore)
  | ended _ ih => exact .ended (ih hmore)

/-- A loop is alive and not late. -/
def Phase.OnTime (now : Instant) : Phase → Prop
  | .starting wake => now.millis ≤ wake.millis
  | .sleeping wake => now.millis ≤ wake.millis
  | .due wake => now = wake
  | .rotating => True
  | .ended => False

theorem Phase.OnTime.ne_ended {now : Instant} {p : Phase} (h : p.OnTime now) : p ≠ .ended := by
  rintro rfl
  exact h

theorem Phase.onTime_of_isLate {now : Instant} {p : Phase} (halive : p ≠ .ended)
    (h : Manager.Phase.isLate false now p = false) : p.OnTime now := by
  cases p with
  | starting | due => cases h
  | sleeping wake =>
    rw [Manager.Phase.isLate, Bool.false_or] at h
    exact Int.not_lt.1 (of_decide_eq_false h)
  | rotating => trivial
  | ended => exact halive rfl

theorem Manager.le_wakeAfter (delay : UInt64) (now : Instant) :
    now.millis ≤ (wakeAfter delay now).millis :=
  Int.le_add_of_nonneg_right (Int.natCast_nonneg _)

namespace System

variable {π : Type} {pool : Pool π} {s s₁ s' t : System π} {m : Move} {ms : List Move} {loop : Nat}
  {p : Phase} {due : Instant} {lease : UInt64}

/-- What is heard of a loop in a step. -/
def beat? (pool : Pool π) (loop : Nat) (s : System π) : Move → Option Beat
  | .begin i => if i = loop then some (.begun s.now) else none
  | .finish i fetched => if i = loop then some (.ended s.now (conclude pool s fetched).2) else none
  | _ => none

/-- What is heard of a loop during a run. -/
def beats (pool : Pool π) (s : System π) (loop : Nat) (ms : List Move) : List Beat :=
  Runs.seen (step pool) (fun s m _ ↦ s.beat? pool loop m) s ms

/-- All delays that are heard of can be slept through at one go. -/
def Representable (beats : List Beat) : Prop :=
  ∀ now delay, .ended now delay ∈ beats → delay ≤ Manager.longestSleep

/-! ### One step -/

/-- Nothing is heard of a loop that does not move. -/
theorem beat?_eq_none (hm : m.loop? ≠ some loop) : s.beat? pool loop m = none := by
  cases m with
  | begin i => exact if_neg fun h ↦ hm (congrArg some h)
  | finish i fetched => exact if_neg fun h ↦ hm (congrArg some h)
  | _ => rfl

/-- A loop that does not move stays on time. -/
theorem Transition.onTime (h : Transition pool s m s') (hrunning : s.manager.stopped = false)
    (hphase : s.manager.loops[loop]? = some p) (hp : p.OnTime s.now) : p.OnTime s'.now := by
  cases h with
  | @ticked millis hpunctual =>
    rcases Nat.eq_zero_or_pos millis with rfl | hpos
    · simpa [Instant.after] using hp
    · have hlate := hpunctual hpos p (List.mem_of_getElem? hphase)
      rw [hrunning] at hlate
      exact Phase.onTime_of_isLate hp.ne_ended hlate
  | _ => exact hp

/-- In every step of a manager that runs a loop stays alive and on time, and keeps its rhythm. -/
theorem Transition.beats (h : Transition pool s m s') (hrunning : s'.manager.stopped = false)
    (hphase : s.manager.loops[loop]? = some p) (hp : p.OnTime s.now)
    (hdelays : Representable (s.beat? pool loop m).toList) :
    ∃ q, s'.manager.loops[loop]? = some q ∧ q.OnTime s'.now ∧
      Rhythm p (s.beat? pool loop m).toList q := by
  have hbefore : s.manager.stopped = false := h.runs_before hrunning
  by_cases hm : m.loop? = some loop
  · cases h with
    | listened hphase' =>
      obtain rfl := Option.some.inj hm
      obtain rfl := Option.some.inj (hphase.symm.trans hphase')
      exact ⟨_, Manager.setPhase_self hphase, hp, .listens .still⟩
    | @woke i wake hphase' hdue =>
      obtain rfl := Option.some.inj hm
      obtain rfl := Option.some.inj (hphase.symm.trans hphase')
      -- not late and not early
      have hnow : s.now = wake := congrArg Instant.mk (Int.le_antisymm hp hdue)
      exact ⟨.due wake, Manager.setPhase_self hphase, hnow, .wakes .still⟩
    | @began i wake hphase' =>
      obtain rfl := Option.some.inj hm
      obtain rfl := Option.some.inj (hphase.symm.trans hphase')
      have hnow : s.now = wake := hp
      have hbeat : s.beat? pool i (.begin i) = some (.begun wake) := by
        rw [beat?, if_pos rfl, hnow]
      rw [hbeat]
      exact ⟨.rotating, Manager.setPhase_self hphase, trivial, .begun .still⟩
    | wokeStopped _ _ hstopped | noticed _ hstopped =>
      rw [hbefore] at hstopped
      cases hstopped
    | @finished i fetched hphase' =>
      obtain rfl := Option.some.inj hm
      obtain rfl := Option.some.inj (hphase.symm.trans hphase')
      have hbeat : s.beat? pool i (.finish i fetched) =
          some (.ended s.now (conclude pool s fetched).2) := if_pos rfl
      rw [hbeat] at hdelays ⊢
      have hdelay := hdelays _ _ (List.mem_singleton.2 rfl)
      refine ⟨_, sleeps_of_rotating hphase, Manager.le_wakeAfter _ _, .ended ?_⟩
      rw [Manager.wakeAfter_of_le hdelay]
      exact .still
    | _ => cases hm
  · rw [beat?_eq_none hm]
    exact ⟨p, h.phase_eq hm hphase, h.onTime hbefore hphase hp, .still⟩

/-! ### Runs -/

theorem running_of_run (hrun : s.run pool ms = some t) (hrunning : t.manager.stopped = false) :
    s.manager.stopped = false := by
  cases hstopped : s.manager.stopped with
  | false => rfl
  | true =>
    rw [stopped_run hrun hstopped] at hrunning
    cases hrunning

/-- As long as a manager runs a loop stays alive and on time, and keeps its rhythm. -/
theorem beats_run (hrun : s.run pool ms = some t) (hrunning : t.manager.stopped = false)
    (hphase : s.manager.loops[loop]? = some p) (hp : p.OnTime s.now)
    (hdelays : Representable (s.beats pool loop ms)) :
    ∃ q, t.manager.loops[loop]? = some q ∧ q.OnTime t.now ∧
      Rhythm p (s.beats pool loop ms) q := by
  induction ms generalizing s p with
  | nil =>
    obtain rfl := Option.some.inj hrun
    exact ⟨p, hphase, hp, .still⟩
  | cons m ms ih =>
    obtain ⟨s', hm, hrest⟩ := run_cons_eq_some.1 hrun
    have hcons : s.beats pool loop (m :: ms) =
        (s.beat? pool loop m).toList ++ s'.beats pool loop ms := Runs.seen_cons hm
    rw [hcons] at hdelays ⊢
    obtain ⟨q, hq, honTime, hrhythm⟩ := (step_eq_some_iff.1 hm).beats
      (running_of_run hrest hrunning) hphase hp fun _ _ hmem ↦
        hdelays _ _ (List.mem_append_left _ hmem)
    obtain ⟨r, hr, hrtime, hrest⟩ := ih hrest hq honTime fun _ _ hmem ↦
      hdelays _ _ (List.mem_append_right _ hmem)
    exact ⟨r, hr, hrtime, hrhythm.append hrest⟩

/-- Where a loop is that has kept to its schedule from a system on in which it was started, to rotate
first at `due`. -/
structure OnSchedule (pool : Pool π) (s : System π) (loop : Nat) (due : Instant) (ms : List Move)
    (t : System π) : Prop where
  /-- What was heard of the loop is exactly on time. -/
  rhythm : ∃ p, t.manager.loops[loop]? = some p ∧ p.OnTime t.now ∧
    Rhythm (.starting due) (s.beats pool loop ms) p
  listens : ∀ wake, t.manager.loops[loop]? = some (.starting wake) →
    ∃ t', t.step pool (.listen loop) = some t' ∧
      t'.manager.loops[loop]? = some (.sleeping wake)
  /-- Asleep it can look at the flag as soon as its sleep is over, and then it is due. -/
  wakes : t.manager.loops[loop]? = some (.sleeping t.now) →
    ∃ t', t.step pool (.wake loop) = some t' ∧ t'.manager.loops[loop]? = some (.due t.now)
  /-- A rotation that is due can begin. -/
  begins : ∀ wake, t.manager.loops[loop]? = some (.due wake) →
    ∃ t', t.step pool (.begin loop) = some t' ∧ t'.manager.loops[loop]? = some .rotating
  /-- Its rotation can end, whatever comes of its fetch, and then it sleeps. -/
  rests : t.manager.loops[loop]? = some .rotating → ∀ fetched, ∃ t' wake,
    t.step pool (.finish loop fetched) = some t' ∧
      t'.manager.loops[loop]? = some (.sleeping wake)
  /-- Time can pass until the first loop has something to do. -/
  ticks : ∀ millis, (∀ p ∈ t.manager.loops,
      p = .rotating ∨ p = .ended ∨
        ∃ wake, p = .sleeping wake ∧ (t.now.after millis).millis ≤ wake.millis) →
    ∃ t', t.step pool (.tick millis) = some t'

/-- A loop that is being started and is not late keeps to its schedule as long as its manager runs. -/
theorem onSchedule (hrun : s.run pool ms = some t) (hrunning : t.manager.stopped = false)
    (hphase : s.manager.loops[loop]? = some (.starting due)) (hdue : s.now.millis ≤ due.millis)
    (hdelays : Representable (s.beats pool loop ms)) : OnSchedule pool s loop due ms t where
  rhythm := beats_run hrun hrunning hphase hdue hdelays
  listens wake hphase := ⟨_, step_eq_some_iff.2 (.listened hphase), Manager.setPhase_self hphase⟩
  wakes hphase := ⟨_, step_eq_some_iff.2 (.woke hphase (Int.le_refl _) hrunning),
    Manager.setPhase_self hphase⟩
  begins wake hphase := ⟨_, step_eq_some_iff.2 (.began hphase), Manager.setPhase_self hphase⟩
  rests hphase fetched := by
    obtain ⟨t', wake, hstep, -, hsleeps, -⟩ := finish_of_rotating hphase fetched
    exact ⟨t', wake, hstep, hsleeps⟩
  ticks millis hlater := by
    refine ⟨_, step_eq_some_iff.2 (.ticked fun _ p hp ↦ ?_)⟩
    rcases hlater p hp with rfl | rfl | ⟨wake, rfl, hle⟩
    · rfl
    · rfl
    · rw [hrunning, Manager.Phase.isLate, Bool.false_or]
      exact decide_eq_false (Int.not_lt.2 hle)

/-! ### Starting -/

/-- What starting adds: a loop that is to rotate when the delay for the lease has passed. -/
theorem start_phase (hhandle : s.manager.handle = none) (hrunning : s.manager.stopped = false)
    (hlease : s.manager.settings.nextDelay lease ≤ Manager.longestSleep) :
    (s.start lease).manager.loops = s.manager.loops ++
        [.starting (s.now.after (Instant.ofSeconds (s.manager.settings.nextDelay lease)))] ∧
      (s.start lease).now = s.now := by
  rw [start, Manager.start_of_running (by rw [hhandle]; rfl) hrunning,
    Manager.wakeAfter_of_le hlease]
  exact ⟨rfl, rfl⟩

/-- A loop that was just started keeps to its schedule as long as its manager runs, whatever else is
logged. -/
theorem onSchedule_of_start {log : List Event} (hhandle : s.manager.handle = none)
    (hstopped : s.manager.stopped = false)
    (hlease : s.manager.settings.nextDelay lease ≤ Manager.longestSleep)
    (hrun : ({ s.start lease with log } : System π).run pool ms = some t)
    (hrunning : t.manager.stopped = false)
    (hdelays : Representable
      (({ s.start lease with log } : System π).beats pool s.manager.loops.length ms)) :
    OnSchedule pool { s.start lease with log } s.manager.loops.length
      (s.now.after (Instant.ofSeconds (s.manager.settings.nextDelay lease))) ms t := by
  obtain ⟨hloops, hnow⟩ := start_phase hhandle hstopped hlease
  refine onSchedule hrun hrunning ?_ ?_ hdelays
  · show (s.start lease).manager.loops[_]? = _
    rw [hloops, List.getElem?_concat_length]
  · show (s.start lease).now.millis ≤ _
    rw [hnow]
    exact Int.le_add_of_nonneg_right (Int.natCast_nonneg _)

/-- No handle is taken where nobody waits. -/
theorem earlyHandles_eq_nil (hwait : .wait ∉ ms) : s.earlyHandles pool ms = [] := by
  induction ms generalizing s with
  | nil => rfl
  | cons m ms ih =>
    rw [earlyHandles, Runs.seen]
    cases s.step pool m with
    | none => rfl
    | some s' =>
      have hnone : s.earlyHandle? m = none := by
        cases m with
        | wait => exact absurd List.mem_cons_self hwait
        | _ => rfl
      rw [hnone]
      exact ih fun hmem ↦ hwait (List.mem_cons_of_mem _ hmem)

/-- Only a start adds a loop. -/
theorem length_run (hstart : ∀ lease, .start lease ∉ ms) (hrun : s.run pool ms = some t) :
    t.manager.loops.length = s.manager.loops.length := by
  refine run_preserves (P := fun u ↦ u.manager.loops.length = s.manager.loops.length)
    (fun u m u' hmem h hu ↦ Eq.trans ?_ hu) hrun rfl
  by_cases hwait : m = .wait
  · subst hwait
    cases h
    rfl
  · exact (h.handle_eq (fun lease hm ↦ hstart lease (hm ▸ hmem)) hwait).2

/-- There is no second loop unless somebody waits and somebody starts. -/
theorem Numbered.length_le_run (hs : s.Numbered []) (hrun : s.run pool ms = some t)
    (halone : .wait ∉ ms ∨ ∀ lease, .start lease ∉ ms) : t.manager.loops.length ≤ 1 := by
  rcases halone with hwait | hstart
  · have ht := numbered_run hs hrun
    rw [earlyHandles_eq_nil hwait] at ht
    exact ht.length_le
  · rw [length_run hstart hrun]
    exact hs.length_le

/-- A loop that keeps to its schedule is there, so there is exactly one where there is no second. -/
theorem OnSchedule.length_eq (h : OnSchedule pool s 0 due ms t)
    (hle : t.manager.loops.length ≤ 1) : t.manager.loops.length = 1 := by
  obtain ⟨p, hp, -⟩ := h.rhythm
  obtain ⟨hlt, -⟩ := List.getElem?_eq_some_iff.1 hp
  exact Nat.le_antisymm hle hlt

/-! ### Creating a pool -/

/-- A pool that was created has made one fetch, has no other under way, and has a loop that is to
rotate when the delay for the lease that was fetched has passed. -/
theorem create_eq_ok {settings : Settings} {build : Credentials → Except Chain π} {now : Instant}
    {c : Credentials} {takes : Nat} {script : List Fetch} {p : π} (hbuild : build c = .ok p) :
    Timeline.create settings build now (⟨.ok c, takes⟩ :: script) = .ok
      { system := (({ manager := { settings }, pool := p, now := now.after (takes * 1000) } :
          System π).start c.lease).emit (.poolCreated c.username c.lease)
        script, begun := 1 } := by
  show (System.create settings (now.after (takes * 1000)) (.ok c) build).map _ = _
  simp only [System.create, hbuild]
  rfl

/-- Without a stop a loop keeps to its schedule, whoever starts it, and stays alone unless its owner
waits for it and starts once more. A pool that is created has made one fetch before; if that fails,
or building the pool, then creating it fails and there is nothing that could rotate. -/
theorem loop_schedule (pool : Pool π) :
    (∀ (s s₁ t : System π) (lease : UInt64) (ms : List Move),
      s.manager.handle = none → s.manager.stopped = false →
      s.manager.settings.nextDelay lease ≤ Manager.longestSleep →
      s.step pool (.start lease) = some s₁ → s₁.run pool ms = some t →
      t.manager.stopped = false → Representable (s₁.beats pool s.manager.loops.length ms) →
        OnSchedule pool s₁ s.manager.loops.length
          (s.now.after (Instant.ofSeconds (s.manager.settings.nextDelay lease))) ms t ∧
        (s.manager.loops = [] → (.wait ∉ ms ∨ ∀ lease, .start lease ∉ ms) →
          t.manager.loops.length = 1)) ∧
    ∀ (settings : Settings) (build : Credentials → Except Chain π) (now : Instant) (fetch : Fetch)
        (script : List Fetch),
      (∀ f, fetch.result = .error f →
        Timeline.create settings build now (fetch :: script) =
          .error (f.chain.withContext "Unable to read initial database credentials")) ∧
      (∀ c e, fetch.result = .ok c → build c = .error e →
        Timeline.create settings build now (fetch :: script) =
          .error (e.withContext "Unable to build connection pool")) ∧
      ∀ c p, fetch.result = .ok c → build c = .ok p →
        ∃ t₀, Timeline.create settings build now (fetch :: script) = .ok t₀ ∧
          t₀.begun = 1 ∧ t₀.script = script ∧ t₀.flights = [] ∧ t₀.system.pool = p ∧
          ∀ (ms : List Move) (t : System π), settings.nextDelay c.lease ≤ Manager.longestSleep →
            t₀.system.run pool ms = some t → t.manager.stopped = false →
            Representable (t₀.system.beats pool 0 ms) →
              OnSchedule pool t₀.system 0 ((now.after (fetch.takes * 1000)).after
                (Instant.ofSeconds (settings.nextDelay c.lease))) ms t ∧
              ((.wait ∉ ms ∨ ∀ lease, .start lease ∉ ms) → t.manager.loops.length = 1) := by
  refine ⟨fun s s₁ t lease ms hhandle hstopped hlease hstarts hrun hrunning hdelays ↦ ?_,
    fun settings build now fetch script ↦ ⟨?_, ?_, ?_⟩⟩
  · have hs : s.manager.loops = [] → s.Numbered [] := fun hloops ↦
      .of_running (by rw [hloops, hhandle]; rfl)
    have h := step_eq_some_iff.1 hstarts
    obtain rfl := Option.some.inj hstarts
    have hschedule := onSchedule_of_start hhandle hstopped hlease hrun hrunning hdelays
    refine ⟨hschedule, fun hloops halone ↦ ?_⟩
    have hle := ((hs hloops).step h).length_le_run hrun halone
    rw [hloops] at hschedule
    exact hschedule.length_eq hle
  · rcases fetch with ⟨_, takes⟩
    rintro f rfl
    rfl
  · rcases fetch with ⟨_, takes⟩
    rintro c e rfl hbuild
    show (System.create settings (now.after (takes * 1000)) (.ok c) build).map _ = _
    rw [System.create, hbuild]
    rfl
  · rcases fetch with ⟨_, takes⟩
    rintro c p rfl hbuild
    refine ⟨_, create_eq_ok hbuild, rfl, rfl, rfl, rfl, fun ms t hlease hrun hrunning hdelays ↦ ?_⟩
    let fresh : System π :=
      { manager := { settings }, pool := p, now := now.after (takes * 1000) }
    have hschedule := onSchedule_of_start (s := fresh) rfl rfl hlease hrun hrunning hdelays
    have hfresh : fresh.Numbered [] := .of_running rfl
    have hstarts : fresh.step pool (.start c.lease) = some (fresh.start c.lease) := rfl
    have hstarted := hfresh.step (step_eq_some_iff.1 hstarts)
    have hs : ((fresh.start c.lease).emit (.poolCreated c.username c.lease)).Numbered [] :=
      ⟨hstarted.running, hstarted.length_le⟩
    exact ⟨hschedule, fun halone ↦ hschedule.length_eq (hs.length_le_run hrun halone)⟩

/-- The manager of a pool that is created rotates once, half a second long, and so does one that its
owner starts. -/
theorem loop_schedule_of_rotations :
    let settings : Settings := {}
    let c : Credentials := ⟨"user-1", ⟨"pass-1"⟩, 100⟩
    let ms : List Move :=
      [.listen 0, .tick 90000, .wake 0, .begin 0, .tick 500, .finish 0 (.ok c)]
    (∃ s t, unstarted.step RecordedPool.hooks (.start 100) = some s ∧
      s.run RecordedPool.hooks ms = some t ∧
      OnSchedule RecordedPool.hooks s 0 ⟨90000⟩ ms t ∧ t.manager.loops.length = 1) ∧
    ∃ t₀ t, Timeline.create settings (fun _ ↦ .ok ({} : RecordedPool)) ⟨0⟩ [⟨.ok c, 0⟩] = .ok t₀ ∧
      t₀.begun = 1 ∧ t₀.system.run RecordedPool.hooks ms = some t ∧
      OnSchedule RecordedPool.hooks t₀.system 0 ⟨90000⟩ ms t ∧ t.manager.loops.length = 1 := by
  intro settings c ms
  obtain ⟨hstarted, hcreated⟩ := loop_schedule RecordedPool.hooks
  have hlease : settings.nextDelay 100 ≤ Manager.longestSleep := by decide +kernel
  -- what else is logged does not matter
  have hruns : ∀ log, ∃ t, ({ unstarted.start 100 with log } : System RecordedPool).run
      RecordedPool.hooks ms = some t ∧ t.manager.stopped = false := fun _ ↦ ⟨_, rfl, rfl⟩
  have hdelays : ∀ log, Representable
      (({ unstarted.start 100 with log } : System RecordedPool).beats RecordedPool.hooks 0 ms) := by
    intro log _ delay hmem
    have hbeats : ({ unstarted.start 100 with log } : System RecordedPool).beats
        RecordedPool.hooks 0 ms =
          [.begun ⟨90000⟩, .ended ⟨90500⟩ (settings.nextDelay 100)] := rfl
    rw [hbeats] at hmem
    obtain ⟨-, rfl⟩ : _ ∧ delay = settings.nextDelay 100 := by simpa using hmem
    exact hlease
  constructor
  · obtain ⟨t, hrun, hrunning⟩ := hruns (unstarted.start 100).log
    obtain ⟨hschedule, hone⟩ :=
      hstarted unstarted _ t 100 ms rfl rfl hlease rfl hrun hrunning (hdelays _)
    exact ⟨_, t, rfl, hrun, hschedule, hone rfl (.inr (by simp [ms]))⟩
  · obtain ⟨-, -, hok⟩ := hcreated settings (fun _ ↦ .ok ({} : RecordedPool)) ⟨0⟩ ⟨.ok c, 0⟩ []
    obtain ⟨t₀, hcreate, hbegun, -, -, -, hschedules⟩ := hok c {} rfl rfl
    have hsystem : t₀.system = { unstarted.start 100 with
        log := .poolCreated "user-1" 100 :: (unstarted.start 100).log } := by
      obtain rfl := Except.ok.inj (hcreate.symm.trans (create_eq_ok rfl))
      rfl
    rw [hsystem] at hschedules
    obtain ⟨t, hrun, hrunning⟩ :=
      hruns (.poolCreated "user-1" 100 :: (unstarted.start 100).log)
    obtain ⟨hschedule, hone⟩ := hschedules ms t hlease hrun hrunning (hdelays _)
    have hdue : ((⟨0⟩ : Instant).after (0 * 1000)).after
        (Instant.ofSeconds (settings.nextDelay 100)) = ⟨90000⟩ := by decide +kernel
    exact ⟨t₀, t, hcreate, hbegun, hsystem ▸ hrun, hsystem ▸ hdue ▸ hschedule,
      hone (.inl (by simp [ms]))⟩

end System

end VaultAccess.Rotation
