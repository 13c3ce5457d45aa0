import VideoCapture.Proofs.Dma.Host
import VideoCapture.Proofs.Queue.Chain

/-!
# Following the chain

The engine knows nothing of lists. From the program it is in it gets to where the tail jumps to, and
there it finds a program because one begins at that address. As no two programs share an address,
following tails from any buffer of the chain leads through the rest of the chain and ends in the
stopper.

## Main definitions

* `VideoCapture.CaptureQueue.programAt`, `VideoCapture.CaptureQueue.follow` — the program at an
  address, and where its tail leads.
* `VideoCapture.CaptureQueue.walk` — where one gets by following tails.
* `VideoCapture.CaptureQueue.Threaded` — all that holds of the chain in memory.

## Main results

* `VideoCapture.CaptureQueue.walk_eq` — following tails runs through the chain.
* `VideoCapture.Channel.threaded_of_reaches` — the chain of every reachable queue is threaded
  through memory.
-/

set_option autoImplicit false

namespace VideoCapture

namespace CaptureQueue

/-! ## Following the tails -/

/-- The program that begins at an address. -/
def programAt (q : CaptureQueue) (address : UInt32) : Option Program :=
  q.programs.find? fun program => program.address == address

/-- Where one gets from the program at an address by the jump at its tail. -/
def follow (q : CaptureQueue) (address : UInt32) : Option UInt32 := do
  let tail ← (← q.programAt address).tailInstruction
  if tail.opcode = .jump then some tail.address else none

/-- The programs that following tails leads to from the program at an address, in as many steps as
given. -/
def walk (q : CaptureQueue) : (steps : Nat) → UInt32 → List UInt32
  | 0, _ => []
  | steps + 1, address =>
    match q.follow address with
    | some next => next :: q.walk steps next
    | none => []

variable {q : CaptureQueue} {i : Nat} {address : UInt32}

/-- Among programs that lie apart, the one at an address is found there.

**Proof sketch.** Induction on the programs. One that lies apart from the program looked for begins
somewhere else, as neither is empty. -/
lemma find?_eq_of_apart {programs : List Program} {program : Program}
    (hapart : (programs.map Program.range).Pairwise FreeRange.Apart)
    (htails : ∀ p ∈ programs, p.HasTail) (hmem : program ∈ programs) :
    programs.find? (fun p => p.address == program.address) = some program := by
  induction programs with
  | nil => cases hmem
  | cons p rest ih =>
    obtain ⟨hhead, hrest⟩ := List.pairwise_cons.mp hapart
    obtain rfl | hmem := List.mem_cons.mp hmem
    · simp
    · -- a program apart from the one looked for begins somewhere else
      have hne : p.address ≠ program.address := by
        intro heq
        have hapart := hhead program.range (List.mem_map_of_mem hmem)
        have hp := Program.size_range_pos (htails p List.mem_cons_self)
        have hprogram := Program.size_range_pos (htails program (List.mem_cons_of_mem p hmem))
        have haddress : p.range.address = program.range.address := congrArg UInt32.toNat heq
        unfold FreeRange.Apart at hapart
        omega
      rw [List.find?_cons_of_neg (by simpa using hne)]
      exact ih hrest (fun p' hp' => htails p' (List.mem_cons_of_mem p hp')) hmem

/-- From a program whose tail is a jump one gets to the target of the jump. -/
lemma follow_eq {program : Program} {target : UInt32} {irq : Bool}
    (hfind : q.programAt program.address = some program)
    (htail : program.tailInstruction = some (.jumpTo target irq)) :
    q.follow program.address = some target := by
  simp only [follow, hfind, htail, Option.bind_eq_bind, Option.bind_some, Instruction.jumpTo,
    if_true]

/-- From a buffer's program one gets to where its tail jumps. -/
lemma follow_of_tailOf {target : UInt32} {irq : Bool} (hfind : ∀ j setup, q.setupOf j = some setup →
      q.programAt setup.program.address = some setup.program)
    (haddress : q.addressOf i = some address) (htail : q.tailOf i = some (.jumpTo target irq)) :
    q.follow address = some target := by
  obtain ⟨setup, hsetup, rfl⟩ := Option.map_eq_some_iff.mp haddress
  rw [tailOf, hsetup] at htail
  exact follow_eq (hfind i setup hsetup) htail

/-- A program that jumps to itself is never left. -/
lemma walk_of_loop (h : q.follow address = some address) (steps : Nat) :
    q.walk steps address = List.replicate steps address := by
  induction steps with
  | zero => rfl
  | succ steps ih =>
    rw [walk, h, List.replicate_succ]
    exact congrArg (address :: ·) ih

/-- **Following tails runs through the chain.** From a program whose chain is linked one gets to the
programs of the chain in order, then to the stopper, and stays there.

**Proof sketch.** Induction on the rest of the chain. The tail of the first program jumps to the
second, from which the walk goes on, or to the stopper if there is no second. -/
theorem walk_eq {rest : List Nat} (hfind : ∀ j setup, q.setupOf j = some setup →
      q.programAt setup.program.address = some setup.program)
    (hstopper : q.follow q.stopper.address = some q.stopper.address)
    (hpoints : (i :: rest).IsChain q.Points) (hlast : ∀ j ∈ (i :: rest).getLast?, q.Ends j)
    (haddress : q.addressOf i = some address) (steps : Nat) :
    (q.walk (rest.length + 1 + steps) address).map some =
      rest.map q.addressOf ++ List.replicate (steps + 1) (some q.stopper.address) := by
  induction rest generalizing i address with
  | nil =>
    have hends : q.Ends i := hlast i rfl
    rw [List.length_nil, Nat.zero_add, Nat.add_comm, walk,
      follow_of_tailOf hfind haddress hends]
    simp only [walk_of_loop hstopper, List.map_nil, List.nil_append, List.map_cons,
      List.map_replicate, List.replicate_succ]
  | cons j rest ih =>
    obtain ⟨⟨next, hnext, htail⟩, hrest⟩ := List.isChain_cons_cons.mp hpoints
    have hsteps : (j :: rest).length + 1 + steps = rest.length + 1 + steps + 1 := by
      rw [List.length_cons]
      omega
    rw [hsteps, walk, follow_of_tailOf hfind haddress htail]
    simp only [List.map_cons, List.cons_append]
    rw [ih hrest (fun k hk => hlast k (by simpa using hk)) hnext, hnext]

/-- All that holds of the chain in memory. -/
structure Threaded (q : CaptureQueue) : Prop where
  /-- The tail of each active buffer's program jumps to the next one's program, with an interrupt.
  -/
  next : ∀ n i j, q.active[n]? = some i → q.active[n + 1]? = some j →
    ∃ address, q.addressOf j = some address ∧ q.tailOf i = some (.jumpTo address true)
  /-- That of the last jumps to the stopper, with an interrupt. -/
  last : ∀ i, q.active.getLast? = some i → q.tailOf i = some (.jumpTo q.stopper.address true)
  /-- So do those of the queued buffers. -/
  queued : ∀ i ∈ q.queued, q.tailOf i = some (.jumpTo q.stopper.address true)
  /-- The stopper jumps to itself, without an interrupt. -/
  stopper : q.stopper.tailInstruction = some (.jumpTo q.stopper.address false)
  /-- Any two active buffers can be captured after each other. -/
  compatible : q.active.Pairwise fun i j => ∃ g h,
    q.geometryOf i = some g ∧ q.geometryOf j = some h ∧ g.chains h = true
  /-- The positions of the active buffers are consecutive, and the queue's next follows the last. -/
  positions : ∃ first, q.active.map q.positionOf = (List.range' first q.active.length).map some ∧
    first + q.active.length = q.count
  /-- From the start of an active buffer's program, following tails leads to the programs of the
  buffers behind it, in order, and then to the stopper for good. -/
  walk : ∀ front i rest, q.active = front ++ i :: rest →
    ∃ address, q.addressOf i = some address ∧ ∀ steps,
      (q.walk (rest.length + 1 + steps) address).map some =
        rest.map q.addressOf ++ List.replicate (steps + 1) (some q.stopper.address)

end CaptureQueue

namespace Channel

variable {δ : Type} [DmaBackend δ] [LawfulDmaBackend δ] {others : List BusRange} {c : Channel δ}

/-- The programs of a queue are found where they begin. -/
lemma Stocked.find?_eq (hc : c.Stocked others) {program : Program}
    (hmem : program ∈ c.programs) : c.programAt program.address = some program :=
  CaptureQueue.find?_eq_of_apart hc.apart (fun _ hp => hc.hasTail hp) hmem

/-- So are those of its buffers. -/
lemma Stocked.find?_setup (hc : c.Stocked others) {i : Nat} {setup : Setup}
    (hsetup : c.setupOf i = some setup) :
    c.programAt setup.program.address = some setup.program :=
  hc.find?_eq (CaptureQueue.mem_programs_of_setupOf hsetup)

/-- From the stopper one gets to the stopper. -/
lemma Stocked.follow_stopper (hc : c.Stocked others) :
    c.follow c.stopper.address = some c.stopper.address :=
  CaptureQueue.follow_eq (hc.find?_eq List.mem_cons_self) hc.stopper

/-- The chain of a sound queue is threaded through memory.

**Proof sketch.** Links, stopper and positions are what a sound queue has. Any rest of the chain is
linked as well, and so it is walked from its first program to the stopper. -/
lemma Sound.threaded (hc : c.Sound others) : c.Threaded := by
  have hlinked := hc.chained.linked
  refine ⟨fun n i j hi hj => ?_, hlinked.last, hlinked.waiting, hc.stocked.stopper, hlinked.follows,
    hc.chained.counted, fun front i rest hactive => ?_⟩
  · have hpoints := List.isChain_iff_getElem.mp hlinked.points n
      (List.getElem?_eq_some_iff.mp hj).1
    rwa [(List.getElem?_eq_some_iff.mp hi).2, (List.getElem?_eq_some_iff.mp hj).2] at hpoints
  · have hpoints : (i :: rest).IsChain c.Points := by
      have hall := hlinked.points
      rw [hactive] at hall
      exact hall.right_of_append
    have hlast : ∀ j ∈ (i :: rest).getLast?, c.Ends j := by
      intro j hj
      refine hlinked.last j ?_
      rw [hactive, List.getLast?_append_of_ne_nil _ (List.cons_ne_nil i rest)]
      exact hj
    -- a buffer whose program has a tail has a program
    obtain ⟨address, haddress⟩ : ∃ address, c.addressOf i = some address := by
      have htail : ∃ jump, c.tailOf i = some jump := by
        cases rest with
        | nil => exact ⟨_, hlast i rfl⟩
        | cons j rest =>
          obtain ⟨⟨target, -, htail⟩, -⟩ := List.isChain_cons_cons.mp hpoints
          exact ⟨_, htail⟩
      obtain ⟨jump, htail⟩ := htail
      obtain ⟨setup, hsetup, -⟩ := Option.bind_eq_some_iff.mp htail
      exact ⟨setup.program.address, by rw [CaptureQueue.addressOf, hsetup]; rfl⟩
    exact ⟨address, haddress, CaptureQueue.walk_eq (fun j setup => hc.stocked.find?_setup)
      hc.stocked.follow_stopper hpoints hlast haddress⟩

/-- **The chain of every reachable queue is threaded through memory**: whatever is done with a queue
in whatever order, and whatever its registers hold meanwhile. -/
theorem threaded_of_reaches {regs : RegisterFile} {dma dma' : δ} {config : Config}
    {c₀ : Channel δ} (hdma : LawfulDmaBackend.Holds dma others)
    (hcreate : create regs dma config = (.ok c₀, dma')) (h : c₀.Reaches c) : c.Threaded :=
  (sound_of_reaches hdma hcreate h).threaded

/-- Two buffers make the chain and a third waits, and the chain is threaded through memory. -/
theorem threaded_of_reaches_chained :
    LawfulDmaBackend.Holds HostDma.create [] ∧
    ∃ c₀ dma c, create {} HostDma.create {} = (.ok c₀, dma) ∧ c₀.Reaches c ∧
      (c.active, c.queued) = ([0, 1], [2]) ∧ c.Threaded := by
  have hdma : LawfulDmaBackend.Holds HostDma.create [] := HostDma.accounts_create (by decide)
  obtain ⟨c₀, dma, c, hcreate, hreach, hlists⟩ := exists_session_of_viewFrom
    (show viewFrom HostDma.create chainedOperations (fun c => (c.active, c.queued)) =
      some ([0, 1], [2]) by decide +kernel)
  exact ⟨hdma, c₀, dma, c, hcreate, hreach, hlists, threaded_of_reaches hdma hcreate hreach⟩

end Channel

end VideoCapture
