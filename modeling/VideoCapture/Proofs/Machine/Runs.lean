import VideoCapture.Proofs.Engine.PowerOn
import VideoCapture.Proofs.Machine.Parts
import VideoCapture.Proofs.Machine.Seats

/-!
# Runs of a machine

Chips are taken and returned, devices are brought up and dropped, openers come, ask for this and
that and go, interrupts are served, and the registers change between any two of these. Whoever has a
device can also work on its queue directly: the timer does. A run is any number of such operations,
in any order, on however many devices there are.

## Main definitions

* `VideoCapture.Chip.Setting` — what can be set about a chip.
* `VideoCapture.Machine.Operation`, `VideoCapture.Machine.perform` — what can happen to a machine.
* `VideoCapture.Machine.Run` — operations lead from one machine to another.
* `VideoCapture.Machine.Conducted`, `VideoCapture.Machine.Served` — the queue of a device has been
  worked on.

## Main results

* `VideoCapture.Machine.Run.keeps` — what no admitted operation breaks holds in a whole run.
* `VideoCapture.Machine.adjust_cases`, `VideoCapture.Machine.ask_cases`,
  `VideoCapture.Machine.conducted_of_workOn` — what the operations on one chip, opener or device do.
-/

set_option autoImplicit false

namespace VideoCapture

/-- What can be set about a chip. -/
inductive Chip.Setting where
  /-- The norm. -/
  | norm (standards : UInt64)
  /-- The connector. -/
  | input (index : Nat)
  /-- A picture control. -/
  | control (id : ControlId) (value : Int)

namespace Chip

/-- Sets something about a chip. -/
def adjust (chip : Chip) (regs : RegisterFile) : Setting → Chip × RegisterFile
  | .norm standards => (chip.setNorm regs standards).2
  | .input index => (chip.selectInput regs index).2
  | .control id value => (chip.setControl regs id value).2

/-- Two chips differ only in what can be set about them. -/
structure SameRole (chip after : Chip) : Prop where
  /-- They have the same number. -/
  number : after.number = chip.number
  /-- They have the same registers. -/
  file : after.file = chip.file
  /-- The right to capture is taken in both or free in both. -/
  claimed : after.claimed = chip.claimed

/-- A chip plays its own role. -/
lemma SameRole.refl (chip : Chip) : chip.SameRole chip :=
  ⟨rfl, rfl, rfl⟩

/-- The role is kept by one setting after the other. -/
lemma SameRole.trans {chip after later : Chip} (h : chip.SameRole after)
    (h' : after.SameRole later) : chip.SameRole later :=
  ⟨h'.number.trans h.number, h'.file.trans h.file, h'.claimed.trans h.claimed⟩

/-- Setting a control keeps the role of a chip. -/
lemma sameRole_setControl (chip : Chip) (regs : RegisterFile) (id : ControlId) (value : Int) :
    chip.SameRole (chip.setControl regs id value).2.1 := by
  unfold setControl
  split
  · exact ⟨rfl, rfl, rfl⟩
  · exact .refl chip

/-- Choosing a norm keeps the role of a chip. -/
lemma sameRole_setNorm (chip : Chip) (regs : RegisterFile) (standards : UInt64) :
    chip.SameRole (chip.setNorm regs standards).2.1 := by
  unfold setNorm
  split
  · exact .refl chip
  · next norm _ =>
    have hnorm : chip.SameRole { chip with norm } := ⟨rfl, rfl, rfl⟩
    have hsaturated := hnorm.trans (sameRole_setControl { chip with norm }
      (Decoder.setNorm regs norm) .saturation (chip.controls .saturation))
    dsimp only
    split
    · exact hsaturated.trans (sameRole_setControl _ _ .chromaGain 0)
    · exact hsaturated

/-- Selecting an input keeps the role of a chip. -/
lemma sameRole_selectInput (chip : Chip) (regs : RegisterFile) (index : Nat) :
    chip.SameRole (chip.selectInput regs index).2.1 := by
  unfold selectInput
  split
  · exact .refl chip
  · split
    · exact .refl chip
    · exact ⟨rfl, rfl, rfl⟩

/-- Setting something about a chip leaves it its role, and concerns neither of the registers that
control the engine. -/
lemma adjust_same (chip : Chip) (regs : RegisterFile) (setting : Setting) :
    chip.SameRole (chip.adjust regs setting).1 ∧
      regs.SameControl (chip.adjust regs setting).2 := by
  cases setting with
  | norm standards => exact ⟨sameRole_setNorm _ _ _, (sameElsewhere_setNorm _ _ _).sameControl⟩
  | input index => exact ⟨sameRole_selectInput _ _ _, (sameElsewhere_selectInput _ _ _).sameControl⟩
  | control id value =>
    exact ⟨sameRole_setControl _ _ _ _, (sameElsewhere_setControl _ _ _ _).sameControl⟩

/-- Setting controls to their defaults, one after the other, keeps the role of a chip. -/
lemma sameRole_initControls (ids : List ControlId) (state : Chip × RegisterFile) :
    state.1.SameRole
      (ids.foldl (fun (chip, regs) id => initControl chip regs id) state).1 := by
  induction ids generalizing state with
  | nil => exact .refl _
  | cons id ids ih =>
    refine .trans ?_ (ih _)
    have hset := sameRole_setControl state.1 state.2 id id.control.default
    show state.1.SameRole (initControl state.1 state.2 id).1
    unfold initControl
    split
    · next heq => rwa [heq] at hset
    · next heq =>
      rw [heq] at hset
      exact hset.trans ⟨rfl, rfl, rfl⟩

/-- A chip that is brought up has the number and the registers it is given, and its right to capture
is free. -/
lemma role_bringUp (number : Nat) (location : Location) (file : Nat) (regs : RegisterFile)
    (config : Config) :
    let chip := (bringUp number location file regs config).1
    chip.number = number ∧ chip.file = file ∧ chip.claimed = false := by
  have hrole := sameRole_initControls ControlId.all
    ({ number, board := Board.identify location.vendor location.device config.card, file,
       norm := config.norm }, Decoder.setNorm (Decoder.reset regs) config.norm)
  exact ⟨hrole.number, hrole.file, hrole.claimed⟩

end Chip

namespace Machine

open CaptureQueue (Answer)

variable {δ : Type}

/-! ## Operations on one chip, opener or device -/

/-- Sets something about the chip of a number, if there is one. -/
def adjust (s : Machine δ) (number : Nat) (setting : Chip.Setting) : Machine δ :=
  match s.chips[number]? with
  | none => s
  | some chip =>
    (s.withChip chip fun chip regs => ((.ok () : Except Error Unit), chip.adjust regs setting)).2

/-- Does something with the queue of a device, if there is that device. -/
def workOn (s : Machine δ) (number : Nat)
    (act : Device → Channel δ → Except Fault (Channel δ)) : Except Fault (Machine δ) :=
  match s.device? number with
  | none => return s
  | some device => do return s.setChannel number device (← act device (s.channel device))

/-- The device of a number with its chip, if there are both. -/
def unit? (s : Machine δ) (number : Nat) : Option (Device × Chip) := do
  let device ← s.device? number
  let chip ← s.chips[device.chip]?
  return (device, chip)

/-- Opens the device of a number, if there is one. -/
def letIn (s : Machine δ) (number : Nat) : Except Fault (Machine δ) :=
  match s.unit? number with
  | none => return s
  | some (_, chip) => do return (← s.openDevice number chip).2

variable [DmaBackend δ]

/-- Serves an interrupt of the device of a number, if there is one. -/
def serve (s : Machine δ) (now : Int) (number : Nat) : Except Fault (Machine δ) :=
  match s.unit? number with
  | none => return s
  | some (device, chip) => do return (← s.interrupt now number device chip).2

/-- Does what an opener asks for, and answers it, if there is that opener. -/
def ask (s : Machine δ) (number : Nat) (operation : Seat.Operation) :
    Except Fault (Option Answer × Machine δ) :=
  match s.seat? number with
  | none => return (none, s)
  | some seat => do
    let (answer, seat) ← seat.perform operation
    return (some answer, s.setSeat number seat)

/-! ## Operations -/

/-- What can happen to a machine. -/
inductive Operation where
  /-- A reference to a chip is taken. -/
  | get (location : Location) (file : Nat) (config : Config)
  /-- A reference to a chip is returned. -/
  | put (chip : Nat)
  /-- A device is brought up. -/
  | probe (location : Location) (file : Nat) (config : Config)
  /-- A device is dropped. -/
  | drop (device : Nat)
  /-- A device is opened. -/
  | openDevice (device : Nat)
  /-- An opener is closed. -/
  | close (opener : Nat)
  /-- An opener asks for something. -/
  | ask (opener : Nat) (operation : Seat.Operation)
  /-- Something is set about a chip. -/
  | adjust (chip : Nat) (setting : Chip.Setting)
  /-- An interrupt of a device is served. -/
  | interrupt (now : Int) (device : Nat)
  /-- The faults of a device are reported. -/
  | service (device : Nat)
  /-- The queue of a device is worked on. -/
  | work (device : Nat) (operation : CaptureQueue.Operation)
  /-- The registers change. -/
  | change (file : Nat) (regs : RegisterFile)

/-- Lets something happen. What concerns a chip, a device or an opener that is not there changes
nothing. -/
def perform (s : Machine δ) : Operation → Except Fault (Machine δ)
  | .get location file config => return (s.get location file config).2
  | .put chip => s.put chip
  | .probe location file config => do return (← s.probe location file config).2
  | .drop device => do return (← s.drop device).2
  | .openDevice device => s.letIn device
  | .close opener => do return (← s.close opener).2
  | .ask opener operation => do return (← s.ask opener operation).2
  | .adjust chip setting => return s.adjust chip setting
  | .interrupt now device => s.serve now device
  | .service device => s.workOn device fun _ c => return c.service.2
  | .work device operation => s.workOn device fun _ c => do return (← c.perform operation).2
  | .change file regs => return s.setFile file regs

/-- A machine in which nothing has happened yet. -/
def vacant (dma : δ) : Machine δ :=
  { dma }

/-- Operations lead from one machine to another, each admitted where it is carried out. -/
inductive Run (admits : Machine δ → Operation → Prop) (s : Machine δ) : Machine δ → Prop where
  /-- Nothing happens. -/
  | refl : Run admits s s
  /-- One thing more happens. -/
  | step {s₁ s₂ : Machine δ} {operation : Operation} : Run admits s s₁ → admits s₁ operation →
      s₁.perform operation = .ok s₂ → Run admits s s₂

variable {admits : Machine δ → Operation → Prop} {s s' : Machine δ}

/-- **What no admitted operation breaks holds in a whole run.**

**Proof sketch.** Induction on the run. -/
theorem Run.keeps {P : Machine δ → Prop} (h : Run admits s s') (hs : P s)
    (hP : ∀ s₁ s₂ operation, P s₁ → admits s₁ operation → s₁.perform operation = .ok s₂ → P s₂) :
    P s' := by
  induction h with
  | refl => exact hs
  | step _ hadmits hperform ih => exact hP _ _ _ ih hadmits hperform

/-- A run may go on with another one. -/
lemma Run.trans {s'' : Machine δ} (h : Run admits s s') (h' : Run admits s' s'') :
    Run admits s s'' := by
  induction h' with
  | refl => exact h
  | step _ hadmits hperform ih => exact ih.step hadmits hperform

/-- What is admitted in a run is admitted wherever more is. -/
lemma Run.mono {admits' : Machine δ → Operation → Prop} (h : Run admits s s')
    (hmore : ∀ s₁ operation, admits s₁ operation → admits' s₁ operation) : Run admits' s s' := by
  induction h with
  | refl => exact .refl
  | step _ hadmits hperform ih => exact ih.step (hmore _ _ hadmits) hperform

/-- Lets one thing after the other happen. -/
def performAll (s : Machine δ) : List Operation → Except Fault (Machine δ)
  | [] => return s
  | operation :: rest => do (← s.perform operation).performAll rest

/-- What happens one after the other is a run, if all of it is admitted wherever it happens.

**Proof sketch.** Along the operations, for every machine that a run has led to. -/
lemma run_of_performAll {operations : List Operation}
    (hadmits : ∀ operation ∈ operations, ∀ s, admits s operation)
    (h : s.performAll operations = .ok s') : Run admits s s' := by
  suffices hall : ∀ s₁ : Machine δ, Run admits s s₁ → s₁.performAll operations = .ok s' →
      Run admits s s' from hall s .refl h
  clear h
  induction operations with
  | nil =>
    intro s₁ hrun h
    exact pure_eq_ok.mp h ▸ hrun
  | cons operation rest ih =>
    intro s₁ hrun h
    obtain ⟨s₂, hperform, hrest⟩ := bind_eq_ok.mp h
    exact ih (fun other hother => hadmits other (List.mem_cons_of_mem _ hother)) s₂
      (hrun.step (hadmits operation List.mem_cons_self s₁) hperform) hrest

/-! ## What operations do -/

omit [DmaBackend δ] in
/-- A device with its chip is both of them. -/
lemma unit?_eq_some {number : Nat} {device : Device} {chip : Chip} :
    s.unit? number = some (device, chip) ↔
      s.device? number = some device ∧ s.chips[device.chip]? = some chip := by
  simp only [unit?, Option.bind_eq_bind, Option.bind_eq_some_iff, Option.pure_def,
    Option.some.injEq, Prod.mk.injEq]
  constructor
  · rintro ⟨_, hdevice, _, hchip, rfl, rfl⟩
    exact ⟨hdevice, hchip⟩
  · rintro ⟨hdevice, hchip⟩
    exact ⟨device, hdevice, chip, hchip, rfl, rfl⟩

omit [DmaBackend δ] in
/-- Taking a reference to a chip concerns neither openers nor devices, nor memory. -/
lemma rest_get (s : Machine δ) (location : Location) (file : Nat) (config : Config) :
    (s.get location file config).2.openers = s.openers ∧
      (s.get location file config).2.devices = s.devices ∧
      (s.get location file config).2.dma = s.dma := by
  unfold Machine.get
  split <;> exact ⟨rfl, rfl, rfl⟩

omit [DmaBackend δ] in
/-- Nor does returning one. -/
lemma rest_put {chip : Nat} (h : s.put chip = .ok s') :
    s'.openers = s.openers ∧ s'.devices = s.devices ∧ s'.dma = s.dma := by
  obtain ⟨⟨last, registry⟩, -, h⟩ := bind_eq_ok.mp h
  dsimp only at h
  split at h
  · split at h <;> exact pure_eq_ok.mp h ▸ ⟨rfl, rfl, rfl⟩
  · exact pure_eq_ok.mp h ▸ ⟨rfl, rfl, rfl⟩

omit [DmaBackend δ] in
/-- A device that is opened gets one more opener, which has not got the right to capture. -/
lemma letIn_cases {number : Nat} (h : s.letIn number = .ok s') :
    s' = s ∨ ∃ device opener, s.device? number = some device ∧ opener.holds = false ∧
      s' = { s with openers := s.openers ++ [some { device := number, opener }] } := by
  unfold letIn at h
  split at h
  · exact .inl (pure_eq_ok.mp h).symm
  · next device chip hunit =>
    obtain ⟨⟨index, _⟩, hopen, h⟩ := bind_eq_ok.mp h
    obtain rfl := pure_eq_ok.mp h
    obtain ⟨opener, hcreate, h⟩ := bind_eq_ok.mp hopen
    obtain ⟨-, rfl⟩ := Prod.mk.inj (pure_eq_ok.mp h)
    refine .inr ⟨device, opener, (unit?_eq_some.mp hunit).1, ?_, rfl⟩
    obtain ⟨outcome, -, hcreate⟩ := bind_eq_ok.mp hcreate
    split at hcreate <;> exact pure_eq_ok.mp hcreate ▸ rfl

omit [DmaBackend δ] in
/-- Setting something about a chip puts the chip and its registers back. -/
lemma adjust_cases (s : Machine δ) (number : Nat) (setting : Chip.Setting) :
    s.adjust number setting = s ∨ ∃ chip after regs, s.chips[number]? = some chip ∧
      chip.SameRole after ∧ (s.file chip.file).SameControl regs ∧
      s.adjust number setting = (s.setChip after).setFile chip.file regs := by
  unfold adjust
  split
  · exact .inl rfl
  · next chip hchip =>
    obtain ⟨hrole, hcontrol⟩ := chip.adjust_same (s.file chip.file) setting
    exact .inr ⟨chip, _, _, hchip, hrole, hcontrol, rfl⟩

/-- The queue of a device is put back as allowed operations have led to it, if there is that
device. -/
def Conducted (allowed : CaptureQueue.Operation → Prop) (s : Machine δ) (number : Nat)
    (s' : Machine δ) : Prop :=
  s' = s ∨ ∃ device c, s.device? number = some device ∧ (s.channel device).Leads allowed c ∧
    s' = s.setChannel number device c

/-- The queue of a device is put back as operations have led to it that prepare buffers for what is
wanted, if there is that device. -/
def Served (wanted : Geometry → Norm → Prop) (s : Machine δ) (number : Nat) (s' : Machine δ) :
    Prop :=
  s' = s ∨ ∃ device c, s.device? number = some device ∧ (s.channel device).Follows wanted c ∧
    s' = s.setChannel number device c

section Serving

variable {allowed allowed' : CaptureQueue.Operation → Prop} {number : Nat}

/-- More may be allowed. -/
lemma Conducted.mono (h : s.Conducted allowed number s')
    (hmore : ∀ task, allowed task → allowed' task) : s.Conducted allowed' number s' :=
  h.imp_right fun ⟨device, c, hdevice, hleads, hsame⟩ =>
    ⟨device, c, hdevice, hleads.mono hmore, hsame⟩

/-- Operations that are allowed may prepare for nothing else. -/
lemma Conducted.served {wanted : Geometry → Norm → Prop} (h : s.Conducted allowed number s')
    (hwanted : ∀ task, allowed task → task.PreparesFor wanted) : s.Served wanted number s' :=
  h.mono hwanted

/-- Working on the queue of a device puts it back. -/
lemma conducted_of_workOn {act : Device → Channel δ → Except Fault (Channel δ)}
    (hact : ∀ {device c c'}, act device c = .ok c' → c.Leads allowed c')
    (h : s.workOn number act = .ok s') : s.Conducted allowed number s' := by
  unfold workOn at h
  split at h
  · exact .inl (pure_eq_ok.mp h).symm
  · next device hdevice =>
    obtain ⟨c, hc, h⟩ := bind_eq_ok.mp h
    exact .inr ⟨device, c, hdevice, hact hc, (pure_eq_ok.mp h).symm⟩

/-- So does serving an interrupt. -/
lemma conducted_of_interrupt {now : Int} (h : s.perform (.interrupt now number) = .ok s') :
    s.Conducted CaptureQueue.Operation.Unasked number s' := by
  simp only [perform, serve] at h
  split at h
  · exact .inl (pure_eq_ok.mp h).symm
  · next device chip hunit =>
    obtain ⟨⟨handled, _⟩, hinterrupt, h⟩ := bind_eq_ok.mp h
    obtain rfl := pure_eq_ok.mp h
    obtain ⟨⟨mine, c⟩, hserve, h⟩ := bind_eq_ok.mp hinterrupt
    obtain ⟨-, rfl⟩ := Prod.mk.inj (pure_eq_ok.mp h)
    exact .inr ⟨device, c, (unit?_eq_some.mp hunit).1, Channel.leads_of_interrupt hserve, rfl⟩

/-- So does reporting faults. -/
lemma conducted_of_service (h : s.perform (.service number) = .ok s') :
    s.Conducted CaptureQueue.Operation.Unasked number s' :=
  conducted_of_workOn (fun hc => pure_eq_ok.mp hc ▸ Channel.leads_service _) h

/-- So does an operation of the queue. -/
lemma conducted_of_work {task : CaptureQueue.Operation}
    (h : s.perform (.work number task) = .ok s') : s.Conducted (· = task) number s' := by
  have hwork : s.workOn number (fun _ c => do return (← c.perform task).2) = .ok s' := h
  refine conducted_of_workOn (fun hc => ?_) hwork
  obtain ⟨⟨answer, _⟩, hperform, hsame⟩ := bind_eq_ok.mp hc
  exact pure_eq_ok.mp hsame ▸ Channel.leads_of_perform task rfl hperform

variable (wanted : Geometry → Norm → Prop)

/-- Serving an interrupt prepares nothing. -/
lemma served_of_interrupt {now : Int} (h : s.perform (.interrupt now number) = .ok s') :
    s.Served wanted number s' :=
  (conducted_of_interrupt h).served fun _ hunasked => hunasked.preparesFor wanted

/-- Reporting faults does not either. -/
lemma served_of_service (h : s.perform (.service number) = .ok s') :
    s.Served wanted number s' :=
  (conducted_of_service h).served fun _ hunasked => hunasked.preparesFor wanted

/-- An operation of the queue may prepare for what is wanted. -/
lemma served_of_work {operation : CaptureQueue.Operation} (hwanted : operation.PreparesFor wanted)
    (h : s.perform (.work number operation) = .ok s') : s.Served wanted number s' :=
  (conducted_of_work h).served fun _ hsame => hsame ▸ hwanted

end Serving

/-- What an opener asks for puts the opener back as it has become, with what it works on. -/
lemma ask_cases {number : Nat} {operation : Seat.Operation} {answer : Option Answer}
    (h : s.ask number operation = .ok (answer, s')) :
    (s.seat? number = none ∧ answer = none ∧ s' = s) ∨ ∃ seat after given,
      s.seat? number = some seat ∧ seat.perform operation = .ok (given, after) ∧
      answer = some given ∧ s' = s.setSeat number after := by
  unfold ask at h
  split at h
  · next hseat =>
    obtain ⟨rfl, rfl⟩ := Prod.mk.inj (pure_eq_ok.mp h)
    exact .inl ⟨hseat, rfl, rfl⟩
  · next seat hseat =>
    obtain ⟨⟨given, after⟩, hperform, h⟩ := bind_eq_ok.mp h
    obtain ⟨rfl, rfl⟩ := Prod.mk.inj (pure_eq_ok.mp h)
    exact .inr ⟨seat, after, given, hseat, hperform, rfl, rfl⟩

end Machine

end VideoCapture
