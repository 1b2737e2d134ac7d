import Assist370.Proofs.DispatchEffect
import Assist370.Proofs.StackedWork

/-!
# The rings of stacked work

The blocks of stacked work are linked both ways, in a ring that starts and ends at the data list of
the dispatcher. Two rings share that anchor, each with links of its own. The first block of a ring
can be taken off it: the rest is a ring again (`WorkQueue.Ring.unlink`), the other ring stays one
(`WorkQueue.Ring.unlink_other`), and the blocks name the users that they named before
(`WorkQueue.Ring.unlink_named`).
-/

namespace Assist370

namespace Memory

variable {memory after : Memory} {next previous : Field UInt32} {first last block : UInt32}
  {blocks : List UInt32}

/-- Blocks are linked both ways from one block to another. -/
def Linked (memory : Memory) (next previous : Field UInt32) :
    UInt32 → List UInt32 → UInt32 → Prop
  | first, [], last => memory.getAddress first next = last ∧ memory.getAddress last previous = first
  | first, block :: rest, last =>
      memory.getAddress first next = block ∧ memory.getAddress block previous = first ∧
        memory.Linked next previous block rest last

instance Linked.decidable (memory : Memory) (next previous : Field UInt32) :
    (first : UInt32) → (blocks : List UInt32) → (last : UInt32) →
      Decidable (memory.Linked next previous first blocks last)
  | _, [], _ => inferInstanceAs (Decidable (_ ∧ _))
  | _, block :: rest, last =>
      have := Linked.decidable memory next previous block rest last
      inferInstanceAs (Decidable (_ ∧ _ ∧ _))

theorem getAddress_put (memory : Memory) (block : UInt32) (field : Field UInt32)
    (value : UInt32) : (memory.put block field value).getAddress block field =
      Address.wrap value := by
  rw [getAddress, get_put_self]

/-- Blocks stay linked while their links stay. -/
theorem Linked.congr (linked : memory.Linked next previous first blocks last)
    (forward : ∀ block ∈ first :: blocks, after.AgreesOn memory (.ofField block next))
    (backward : ∀ block ∈ last :: blocks, after.AgreesOn memory (.ofField block previous)) :
    after.Linked next previous first blocks last := by
  induction blocks generalizing first with
  | nil =>
      refine ⟨?_, ?_⟩
      · rw [(forward first (by simp)).getAddress_eq]
        exact linked.1
      · rw [(backward last (by simp)).getAddress_eq]
        exact linked.2
  | cons block rest ih =>
      obtain ⟨isNext, isPrevious, linked⟩ := linked
      refine ⟨?_, ?_, ih linked (fun other other_mem => forward other (by simp_all)) ?_⟩
      · rw [(forward first (by simp)).getAddress_eq]
        exact isNext
      · rw [(backward block (by simp)).getAddress_eq]
        exact isPrevious
      · intro other other_mem
        simp only [List.mem_cons] at other_mem backward
        exact backward other (other_mem.imp_right .inr)

end Memory

/-- A queue of stacked work: where its blocks have their links and name their user, and how long
they are. -/
structure WorkQueue where
  next : Field UInt32
  previous : Field UInt32
  user : Field UInt32
  length : Nat

namespace WorkQueue

/-- Timer and I/O requests. -/
def requests : WorkQueue where
  next := Trqblok.next
  previous := Trqblok.previous
  user := Trqblok.user
  length := 0x20

/-- Execution requests, which name their user by a saved register. -/
def executions : WorkQueue where
  next := Cpexblok.next
  previous := Cpexblok.previous
  user := Cpexblok.registers.item 11
  length := 0x50

/-- The links lie apart from each other in the first sixteen bytes, and the user is named behind
them. -/
structure Sound (queue : WorkQueue) : Prop where
  next : queue.next.offset.toNat + 4 ≤ 16
  previous : queue.previous.offset.toNat + 4 ≤ 16
  links : 4 ≤ Region.distance queue.next.offset queue.previous.offset ∧
    4 ≤ Region.distance queue.previous.offset queue.next.offset
  user : 4 ≤ Region.distance queue.previous.offset queue.user.offset ∧
    4 ≤ Region.distance queue.user.offset queue.previous.offset
  inside : queue.user.offset.toNat + 4 ≤ queue.length ∧
    queue.user.offset.toNat < Address.space ∧ 16 ≤ queue.length

theorem requests_sound : requests.Sound :=
  ⟨by decide, by decide, by decide, by decide, by decide⟩

theorem executions_sound : executions.Sound :=
  ⟨by decide, by decide, by decide, by decide, by decide⟩

/-- Where a block lies. -/
def region (queue : WorkQueue) (block : UInt32) : Region :=
  ⟨block, queue.length⟩

/-- The blocks form a ring with the data list of the dispatcher. -/
def Ring (queue : WorkQueue) (memory : Memory) (list : UInt32) (blocks : List UInt32) : Prop :=
  memory.Linked queue.next queue.previous list blocks list

instance (queue : WorkQueue) (memory : Memory) (list : UInt32) (blocks : List UInt32) :
    Decidable (queue.Ring memory list blocks) :=
  inferInstanceAs (Decidable (Memory.Linked _ _ _ _ _ _))

/-- The user that a block names. -/
def named (queue : WorkQueue) (memory : Memory) (block : UInt32) : UInt32 :=
  memory.getAddress block queue.user

/-- Memory once a block has been taken off its ring. -/
def unlink (queue : WorkQueue) (memory : Memory) (block : UInt32) : Memory :=
  memory.unlink block queue.next queue.previous

/-- The blocks of a ring lie apart from each other and from its anchor. -/
structure Apart (queue : WorkQueue) (list : UInt32) (blocks : List UInt32) : Prop where
  pairwise : blocks.Pairwise fun block other => (queue.region block).Apart (queue.region other)
  anchor : ∀ block ∈ blocks, (queue.region block).Apart ⟨list, 16⟩

variable {queue other : WorkQueue} {memory after : Memory} {list block : UInt32}
  {rest blocks others : List UInt32}

theorem Sound.next_within (sound : queue.Sound) (block : UInt32) :
    (Region.ofField block queue.next).Within ⟨block, 16⟩ :=
  Region.ofField_within block sound.next (by have := sound.next; simp only [Address.space]; omega)

theorem Sound.previous_within (sound : queue.Sound) (block : UInt32) :
    (Region.ofField block queue.previous).Within ⟨block, 16⟩ :=
  Region.ofField_within block sound.previous
    (by have := sound.previous; simp only [Address.space]; omega)

theorem Sound.cell_within (sound : queue.Sound) (block : UInt32) :
    Region.Within ⟨block, 16⟩ (queue.region block) :=
  fun _ inCell => Nat.lt_of_lt_of_le inCell sound.inside.2.2

theorem Sound.user_within (sound : queue.Sound) (block : UInt32) :
    (Region.ofField block queue.user).Within (queue.region block) :=
  Region.ofField_within block sound.inside.1 sound.inside.2.1

/-- The anchor and the blocks have their links apart from each other. -/
theorem Apart.cells (sound : queue.Sound) (apart : queue.Apart list blocks) :
    (list :: blocks).Pairwise fun block other => Region.Apart ⟨block, 16⟩ ⟨other, 16⟩ := by
  refine List.pairwise_cons.mpr ⟨fun block block_mem => ?_, apart.pairwise.imp fun blockApart => ?_⟩
  · exact ((apart.anchor block block_mem).mono (sound.cell_within block)).symm
  · exact blockApart.parts (sound.cell_within _) (sound.cell_within _)

theorem Apart.nodup (sound : queue.Sound) (apart : queue.Apart list blocks) :
    (list :: blocks).Nodup := by
  refine (apart.cells sound).imp fun {block other} cells same => ?_
  have inside : Region.Contains ⟨block, 16⟩ block := by
    simp [Region.Contains, Region.distance, Address.wrap]
  exact cells block inside (same ▸ inside)

theorem Apart.tail (apart : queue.Apart list (block :: rest)) : queue.Apart list rest :=
  ⟨(List.pairwise_cons.mp apart.pairwise).2, fun other other_mem =>
    apart.anchor other (List.mem_cons_of_mem block other_mem)⟩

theorem Apart.previous_next (sound : queue.Sound) (apart : queue.Apart list blocks)
    {first second : UInt32} (first_mem : first ∈ list :: blocks)
    (second_mem : second ∈ list :: blocks) :
    (Region.ofField first queue.previous).Apart (.ofField second queue.next) := by
  by_cases same : first = second
  · rw [same]
    exact Region.ofField_apart second sound.links.2 sound.links.1
  · have cells := Region.apart_of_pairwise (apart.cells sound) first_mem second_mem same
    exact cells.parts (sound.previous_within first) (sound.next_within second)

namespace Ring

theorem backward (ring : queue.Ring memory list (block :: rest)) :
    memory.getAddress block queue.previous = list :=
  ring.2.1

/-- A ring whose anchor comes first has no blocks. -/
theorem eq_nil (sound : queue.Sound) (apart : queue.Apart list blocks)
    (ring : queue.Ring memory list blocks) (empty : memory.getAddress list queue.next = list) :
    blocks = [] := by
  cases blocks with
  | nil => rfl
  | cons block rest =>
      have isFirst : memory.getAddress list queue.next = block := ring.1
      have distinct := apart.nodup sound
      rw [← isFirst, empty] at distinct
      simp at distinct

theorem forward_mem (ring : queue.Ring memory list (block :: rest)) :
    memory.getAddress block queue.next ∈ list :: rest := by
  cases rest with
  | nil => simp [ring.2.2.1]
  | cons second rest => simp [ring.2.2.1]

/-- The first block is taken off its ring by stores into the anchor and into the links of the block
behind it, or of the anchor. -/
theorem unlink_agreesOn (ring : queue.Ring memory list (block :: rest)) {region : Region}
    (anchor : (Region.ofField list queue.next).Apart region)
    (behind : (Region.ofField (memory.getAddress block queue.next) queue.previous).Apart region) :
    (queue.unlink memory block).AgreesOn memory region := by
  rw [WorkQueue.unlink, Memory.unlink, ring.backward]
  exact (Memory.put_agreesOn _ behind).trans (Memory.put_agreesOn _ anchor)

/-- The rest of a ring is a ring once the first block has been taken off. -/
theorem unlink (sound : queue.Sound) (apart : queue.Apart list (block :: rest))
    (ring : queue.Ring memory list (block :: rest)) :
    queue.Ring (queue.unlink memory block) list rest := by
  have isAddress : Address.wrap list = list := by
    rw [← ring.backward, Memory.getAddress, Address.wrap_wrap]
  have restApart : queue.Apart list rest := apart.tail
  -- The anchor is linked to what was behind the block, be it another block or the anchor itself.
  have first : (queue.unlink memory block).getAddress list queue.next =
      memory.getAddress block queue.next := by
    have clear := restApart.previous_next sound ring.forward_mem (List.mem_cons_self ..)
    rw [WorkQueue.unlink, Memory.unlink, ring.backward,
      Memory.AgreesOn.getAddress_eq (Memory.put_agreesOn _ clear), Memory.getAddress_put,
      Memory.getAddress, Address.wrap_wrap]
  have last : (queue.unlink memory block).getAddress (memory.getAddress block queue.next)
      queue.previous = list := by
    rw [WorkQueue.unlink, Memory.unlink, ring.backward, Memory.getAddress_put, isAddress]
  cases rest with
  | nil =>
      have forward : memory.getAddress block queue.next = list := ring.2.2.1
      rw [forward] at first last
      exact ⟨first, last⟩
  | cons second rest =>
      have forward : memory.getAddress block queue.next = second := ring.2.2.1
      rw [forward] at first last
      have cells := restApart.cells sound
      have second_mem : second ∈ list :: second :: rest := by simp
      refine ⟨first, last, ring.2.2.2.2.congr (fun other other_mem => ?_) fun other other_mem => ?_⟩
      · have anchorApart := List.rel_of_pairwise_cons cells other_mem
        refine ring.unlink_agreesOn
          (anchorApart.parts (sound.next_within list) (sound.next_within other)) ?_
        rw [forward]
        exact restApart.previous_next sound second_mem (List.mem_cons_of_mem list other_mem)
      · have other_list : other ∈ list :: second :: rest :=
          List.mem_cons.mpr ((List.mem_cons.mp other_mem).imp_right (List.mem_cons_of_mem second))
        have different : second ≠ other := by
          have distinct := restApart.nodup sound
          grind
        have behindApart := Region.apart_of_pairwise cells second_mem other_list different
        refine ring.unlink_agreesOn
          (restApart.previous_next sound other_list (List.mem_cons_self ..)).symm ?_
        rw [forward]
        exact behindApart.parts (sound.previous_within second) (sound.previous_within other)

/-- Storage apart from the anchor and the other blocks stays. -/
theorem unlink_spares (sound : queue.Sound) (ring : queue.Ring memory list (block :: rest))
    {region : Region} (clear : ∀ second ∈ list :: rest, Region.Apart ⟨second, 16⟩ region) :
    (queue.unlink memory block).AgreesOn memory region :=
  ring.unlink_agreesOn ((clear list (List.mem_cons_self ..)).mono (sound.next_within list))
    ((clear _ ring.forward_mem).mono (sound.previous_within _))

/-- The blocks behind it name the users that they have named. -/
theorem unlink_named (sound : queue.Sound) (apart : queue.Apart list (block :: rest))
    (ring : queue.Ring memory list (block :: rest)) {second : UInt32} (second_mem : second ∈ rest) :
    queue.named (queue.unlink memory block) second = queue.named memory second := by
  have anchorApart := (apart.tail.anchor second second_mem).symm
  refine Memory.AgreesOn.getAddress_eq (ring.unlink_agreesOn
    (anchorApart.parts (sound.next_within list) (sound.user_within second)) ?_)
  by_cases same : memory.getAddress block queue.next = second
  · rw [same]
    exact Region.ofField_apart second sound.user.1 sound.user.2
  · rcases List.mem_cons.mp ring.forward_mem with isAnchor | forward_rest
    · rw [isAnchor]
      exact anchorApart.parts (sound.previous_within list) (sound.user_within second)
    · have behindApart :=
        Region.apart_of_pairwise apart.tail.pairwise forward_rest second_mem same
      exact (behindApart.mono (sound.cell_within _)).parts (sound.previous_within _)
        (sound.user_within second)

/-- Another ring with the same anchor stays one. -/
theorem unlink_other (sound : queue.Sound) (otherSound : other.Sound)
    (anchors : ∀ link ∈ [queue.next, queue.previous], ∀ otherLink ∈ [other.next, other.previous],
      4 ≤ Region.distance link.offset otherLink.offset ∧
        4 ≤ Region.distance otherLink.offset link.offset)
    (apart : ∀ second ∈ list :: rest, ∀ place ∈ list :: others,
      second = place ∨ Region.Apart ⟨second, 16⟩ ⟨place, 16⟩)
    (ring : queue.Ring memory list (block :: rest)) (otherRing : other.Ring memory list others) :
    other.Ring (queue.unlink memory block) list others := by
  have keeps : ∀ place ∈ list :: others, ∀ otherLink ∈ [other.next, other.previous],
      (Region.ofField place otherLink).Within ⟨place, 16⟩ →
      (queue.unlink memory block).AgreesOn memory (.ofField place otherLink) := by
    intro place place_mem otherLink otherLink_mem otherWithin
    have clear : ∀ second ∈ list :: rest, ∀ link ∈ [queue.next, queue.previous],
        (Region.ofField second link).Within ⟨second, 16⟩ →
        (Region.ofField second link).Apart (.ofField place otherLink) := by
      intro second second_mem link link_mem within
      rcases apart second second_mem place place_mem with rfl | cells
      · obtain ⟨above, below⟩ := anchors link link_mem otherLink otherLink_mem
        exact Region.ofField_apart second above below
      · exact cells.parts within otherWithin
    exact ring.unlink_agreesOn
      (clear list (List.mem_cons_self ..) _ (by simp) (sound.next_within list))
      (clear _ ring.forward_mem _ (by simp) (sound.previous_within _))
  exact otherRing.congr
    (fun place place_mem => keeps place place_mem _ (by simp) (otherSound.next_within place))
    fun place place_mem => keeps place place_mem _ (by simp) (otherSound.previous_within place)

end Ring

end WorkQueue

end Assist370
