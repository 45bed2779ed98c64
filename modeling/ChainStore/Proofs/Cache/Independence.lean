import ChainStore.Cache.History
import ChainStore.Proofs.Cache.Slots

set_option autoImplicit false
set_option relaxedAutoImplicit false

/-!
Clients that keep to heights of their own. Each of them gets the answers that he would get alone,
so the order in which the clients are served does not matter to any of them, nor to what the
database holds in the end, except for the order of transactions at different heights and for the
second at which the tip was written.
-/

namespace ChainStore.Cache

open Storage

variable {κ : Type}

/-! ### One client among others -/

/-- Two databases that give the same access and hold the same at some heights. -/
structure AlikeAt (heights : Set Int) (db other : Database) : Prop where
  access : db.SameAccess other
  slots : ∀ k ∈ heights, other.slot k = db.slot k

def Turn.Within (heights : Set Int) (turn : Turn κ) : Prop :=
  ∃ height, turn.call.operation.place? = some height ∧ (height.toNat : Int) ∈ heights

def Turn.Apart (heights : Set Int) (turn : Turn κ) : Prop :=
  ∃ height, turn.call.operation.place? = some height ∧ (height.toNat : Int) ∉ heights

private theorem alike_apart {heights : Set Int} {turn : Turn κ} (apart : turn.Apart heights)
    {db other : Database} (serviceable : db.Serviceable) (alike : AlikeAt heights db other) :
    AlikeAt heights (turn.call.perform (turn.through.holding db)).2.database other := by
  obtain ⟨height, place, outside⟩ := apart
  have access := access_perform turn.call (turn.through.holding db)
  refine ⟨⟨alike.access.locked.trans access.locked.symm,
    alike.access.logged.trans access.logged.symm⟩, fun k inside => ?_⟩
  have elsewhere : (height.toNat : Int) ≠ k := by
    rintro rfl
    exact outside inside
  rw [slot_perform place (c := turn.through.holding db) serviceable, if_neg (by simp [elsewhere])]
  exact alike.slots k inside

private theorem alike_within {heights : Set Int} {turn twin : Turn κ} (within : turn.Within heights)
    (same : turn.request = twin.request) {db other : Database} (serviceable : db.Serviceable)
    (serviceable_other : other.Serviceable) (alike : AlikeAt heights db other) :
    (turn.call.perform (turn.through.holding db)).1 =
        (twin.call.perform (twin.through.holding other)).1 ∧
      AlikeAt heights (turn.call.perform (turn.through.holding db)).2.database
        (twin.call.perform (twin.through.holding other)).2.database := by
  obtain ⟨height, place, inside⟩ := within
  simp only [Turn.request, Request.mk.injEq] at same
  obtain ⟨operation, fired, rights⟩ := same
  have place_twin : twin.call.operation.place? = some height := operation ▸ place
  have here := slot_perform place (c := turn.through.holding db) serviceable
  have there := slot_perform place_twin (c := twin.through.holding other) serviceable_other
  have same_rights : (twin.through.holding other).toRights = (turn.through.holding db).toRights :=
    rights.symm
  have outcome := outcome_congr same_rights alike.access
  have answer : (turn.call.perform (turn.through.holding db)).1 =
      (twin.call.perform (twin.through.holding other)).1 := by
    have held := alike.slots _ inside
    rw [answer_at place (c := turn.through.holding db) serviceable,
      answer_at place_twin (c := twin.through.holding other) serviceable_other,
      Connection.database_holding, Connection.database_holding, held, ← fired, ← operation,
      outcome]
  have access := access_perform turn.call (turn.through.holding db)
  have access_twin := access_perform twin.call (twin.through.holding other)
  refine ⟨answer, ⟨?_, ?_⟩, fun k member => ?_⟩
  · exact access_twin.locked.trans (alike.access.locked.trans access.locked.symm)
  · exact access_twin.logged.trans (alike.access.logged.trans access.logged.symm)
  · rw [here k, there k, ← answer, ← operation, Connection.database_holding,
      Connection.database_holding, alike.slots k member]

theorem serviceable_serve {db : Database} (serviceable : db.Serviceable) (turns : List (Turn κ)) :
    (serve turns db).2.Serviceable := by
  induction turns generalizing db with
  | nil => exact serviceable
  | cons turn turns ih =>
    exact ih (serviceable_perform turn.call (c := turn.through.holding db) serviceable)

private theorem access_serve (turns : List (Turn κ)) (db : Database) :
    db.SameAccess (serve turns db).2 := by
  induction turns generalizing db with
  | nil => exact ⟨rfl, rfl⟩
  | cons turn turns ih =>
    have first := access_perform turn.call (turn.through.holding db)
    have rest := ih (turn.call.perform (turn.through.holding db)).2.database
    exact ⟨rest.locked.trans first.locked, rest.logged.trans first.logged⟩

/-- Those turns that keep to some heights, while all others keep off them, are answered as if they
were alone, and leave at these heights what they would leave there alone. -/
private theorem serve_mine {heights : Set Int} {mine : Turn κ → Bool} {turns solo : List (Turn κ)}
    (same : (turns.filter mine).map Turn.request = solo.map Turn.request)
    (within : ∀ turn ∈ turns, mine turn = true → turn.Within heights)
    (apart : ∀ turn ∈ turns, mine turn = false → turn.Apart heights) {db other : Database}
    (serviceable : db.Serviceable) (serviceable_other : other.Serviceable)
    (alike : AlikeAt heights db other) :
    ((serve turns db).1.filter fun one => mine one.1).map
        (fun one => (one.1.call.operation, one.2)) =
      (serve solo other).1.map (fun one => (one.1.call.operation, one.2)) ∧
    AlikeAt heights (serve turns db).2 (serve solo other).2 := by
  induction turns generalizing solo db other with
  | nil =>
    obtain rfl : solo = [] := List.map_eq_nil_iff.mp same.symm
    exact ⟨rfl, alike⟩
  | cons turn turns ih =>
    have rest_within : ∀ next ∈ turns, mine next = true → next.Within heights :=
      fun next member => within next (List.mem_cons_of_mem turn member)
    have rest_apart : ∀ next ∈ turns, mine next = false → next.Apart heights :=
      fun next member => apart next (List.mem_cons_of_mem turn member)
    have serves := serviceable_perform turn.call (c := turn.through.holding db) serviceable
    cases own : mine turn with
    | false =>
      rw [List.filter_cons_of_neg (by simp [own])] at same
      have unnoticed := alike_apart (apart turn List.mem_cons_self own) serviceable alike
      obtain ⟨answers, final⟩ := ih same rest_within rest_apart serves serviceable_other unnoticed
      refine ⟨?_, final⟩
      rw [← answers]
      simp [serve, own]
    | true =>
      rw [List.filter_cons_of_pos own, List.map_cons] at same
      cases solo with
      | nil => cases same
      | cons twin solo =>
        obtain ⟨request, rest⟩ := List.cons.inj same
        obtain ⟨answer, next⟩ := alike_within (within turn List.mem_cons_self own) request
          serviceable serviceable_other alike
        have serves_other :=
          serviceable_perform twin.call (c := twin.through.holding other) serviceable_other
        obtain ⟨answers, final⟩ := ih rest rest_within rest_apart serves serves_other next
        have operation : turn.call.operation = twin.call.operation :=
          congrArg Request.operation request
        refine ⟨?_, final⟩
        simp [serve, own, answer, operation, ← answers]

/-! ### The order between heights -/

/-- The lookups that cannot tell in which order things happened at different heights, nor when. -/
def Operation.orderless : Operation → Bool
  | .tipHeight | .payloadAt _ | .blockAt _ | .hashAt _ | .payloadWithHash _ | .blockWithHash _
  | .transaction (.position _ _) => true
  | _ => false

/-- Two databases that differ at most in the order between heights and in the second of the tip. -/
structure Reordered (db other : Database) : Prop where
  blocks : other.blocks = db.blocks
  tip : other.tipHeight = db.tipHeight
  slots : ∀ k, other.slot k = db.slot k
  access : db.SameAccess other

private theorem newest_at {db : Database} {rows : List TransactionRow}
    (filed : db.transactions = some rows) (height : Height) (index : UInt32) :
    Database.newestTransaction (names (.position height index)) db =
      readRow TransactionRow.toTransaction ((db.slot height.toNat).transactions.filter
        fun row => row.index.equalsInt index.toNat).getLast? := by
  have chosen : names (.position height index) = fun row =>
      row.index.equalsInt index.toNat && row.blockHeight.equalsInt height.toNat := by
    funext row
    rw [names, Bool.and_comm]
  simp only [Database.newestTransaction, Database.slot, filed, Option.getD_some,
    List.filter_filter, chosen]

private theorem orderless_perform {db other : Database} (serviceable : db.Serviceable)
    (serviceable_other : other.Serviceable) (reordered : Reordered db other) {call : Call}
    (orderless : call.operation.orderless = true) (reader : Connection) :
    (call.perform (reader.holding other)).1 = (call.perform (reader.holding db)).1 := by
  have able : (reader.holding other).readFault? = (reader.holding db).readFault? :=
    readFault?_congr rfl reordered.access
  have table : other.blockTable = db.blockTable := by
    rw [Database.blockTable, Database.blockTable, reordered.blocks]
  obtain ⟨operation, fired, now⟩ := call
  cases fired with
  | true => rfl
  | false =>
    show ((operation.action now).run _).1 = ((operation.action now).run _).1
    cases operation with
    | tipHeight =>
      exact answer_map_congr _ (answer_lookup_congr _ _ able reordered.tip)
    | payloadAt height =>
      exact answer_map_congr _ (answer_lookup_congr _ _ able
        (by simp only [Database.payloadAt, Connection.database_holding, table]))
    | blockAt height =>
      exact answer_map_congr _ (answer_lookup_congr _ _ able
        (by simp only [Database.blockAt, Connection.database_holding, table]))
    | hashAt height =>
      exact answer_map_congr _ (answer_lookup_congr _ _ able
        (by simp only [Database.hashAt, Connection.database_holding, table]))
    | blockWithHash hash =>
      exact answer_map_congr _ (answer_lookup_congr _ _ able
        (by simp only [Database.blockWithHash, Connection.database_holding, table]))
    | payloadWithHash hash =>
      exact answer_map_congr _ (answer_map_congr Block.payload (answer_lookup_congr _ _ able
        (by simp only [Database.blockWithHash, Connection.database_holding, table])))
    | transaction key =>
      cases key with
      | position height index =>
        obtain ⟨rows, filed⟩ := serviceable.transactions
        obtain ⟨rows_other, filed_other⟩ := serviceable_other.transactions
        exact answer_map_congr _ (answer_lookup_congr _ _ able
          (by rw [Connection.database_holding, Connection.database_holding, newest_at filed,
            newest_at filed_other, reordered.slots]))
      | hash _ | inBlock _ _ => cases orderless
    | tip | setTip _ | acceptBlock _ | putBlock _ | removeBlock _ | rollBack _ | addTransaction _
    | removeTransactions _ => cases orderless

/-! ### The tip -/

private def acceptedIn (outcome : Outcome) : Option Height :=
  Entry.accepted? ⟨⟨outcome.1, false, 0⟩, outcome.2⟩

private theorem run_turns (turns : List (Turn κ)) (db : Database) :
    run (turns.map fun turn => .call turn.through turn.call) db =
      ((serve turns db).1.map fun one => ⟨one.1.call, one.2⟩, (serve turns db).2) := by
  induction turns generalizing db with
  | nil => rfl
  | cons turn turns ih =>
    simp only [List.map_cons, run, Step.apply, serve, ih]
    rfl

private theorem turn_of_served {turns : List (Turn κ)} {db : Database}
    {one : Turn κ × Except Error Answer} (served : one ∈ (serve turns db).1) : one.1 ∈ turns := by
  induction turns generalizing db with
  | nil => cases served
  | cons turn turns ih =>
    rcases List.mem_cons.mp served with rfl | later
    · exact List.mem_cons_self
    · exact List.mem_cons_of_mem turn (ih later)

private theorem tipHeight_serve {turns : List (Turn κ)}
    (placed : ∀ turn ∈ turns, turn.call.operation.place?.isSome) {db : Database}
    {found : Option Height} (readable : db.tipHeight = .ok found) :
    (serve turns db).2.tipHeight = .ok (found.toList ++ (serve turns db).1.filterMap
      fun one => acceptedIn (one.1.call.operation, one.2)).max? := by
  have ran := run_turns turns db
  have spared : ∀ step ∈ turns.map fun turn => Step.call turn.through turn.call,
      step.spares .tip = true := by
    intro step member
    obtain ⟨turn, -, rfl⟩ := List.mem_map.mp member
    rfl
  have plain : ∀ entry ∈ (run (turns.map fun turn => .call turn.through turn.call) db).1,
      entry.resets = false := by
    rw [ran]
    intro entry member
    obtain ⟨one, served, rfl⟩ := List.mem_map.mp member
    have local_change := placed _ (turn_of_served served)
    unfold Entry.resets
    cases change : one.1.call.operation with
    | setTip _ | rollBack _ => simp [change, Operation.place?] at local_change
    | _ => rfl
  have climbed := tipHeight_of_run readable spared plain
  rw [ran] at climbed
  rw [climbed, List.filterMap_map]
  rfl

private instance : Std.LawfulOrderMax Height where
  max_eq_or m n := by
    rw [UInt32.max_def]
    split
    · exact .inr rfl
    · exact .inl rfl
  max_le_iff m n bound := by
    rw [UInt32.le_iff_toNat_le, UInt32.le_iff_toNat_le, UInt32.le_iff_toNat_le,
      UInt32.toNat_max]
    omega

private theorem max?_congr {heights others : List Height}
    (same : ∀ height, height ∈ heights ↔ height ∈ others) : heights.max? = others.max? := by
  cases top : heights.max? with
  | none =>
    have none_here : heights = [] := List.max?_eq_none_iff.mp top
    have none_there : others = [] := by
      refine List.eq_nil_iff_forall_not_mem.mpr fun height member => ?_
      rw [← same, none_here] at member
      cases member
    rw [none_there]
    rfl
  | some greatest =>
    obtain ⟨member, bound⟩ := List.max?_eq_some_iff.mp top
    exact (List.max?_eq_some_iff.mpr
      ⟨(same _).mp member, fun height there => bound height ((same _).mpr there)⟩).symm

/-! ### All clients -/

section Clients

variable [DecidableEq κ]

def heightsOf (client : κ) (turns : List (Turn κ)) : Set Int :=
  {k | ∃ turn ∈ turns, turn.client = client ∧
    ∃ height, turn.call.operation.place? = some height ∧ (height.toNat : Int) = k}

/-- Nothing but changes at single heights, and none of two clients at the same height. -/
structure KeepApart (turns : List (Turn κ)) : Prop where
  placed : ∀ turn ∈ turns, turn.call.operation.place?.isSome
  apart : ∀ turn ∈ turns, ∀ other ∈ turns,
    turn.call.operation.place? = other.call.operation.place? → turn.client = other.client

variable {turns others : List (Turn κ)}

private theorem turn_of_request (same : ∀ client, requests client turns = requests client others)
    {turn : Turn κ} (member : turn ∈ turns) :
    ∃ twin ∈ others, twin.client = turn.client ∧ twin.request = turn.request := by
  have requested : turn.request ∈ requests turn.client others := by
    rw [← same]
    exact List.mem_map_of_mem (List.mem_filter.mpr ⟨member, beq_self_eq_true _⟩)
  obtain ⟨twin, chosen, request⟩ := List.mem_map.mp requested
  obtain ⟨there, client⟩ := List.mem_filter.mp chosen
  exact ⟨twin, there, eq_of_beq client, request⟩

private theorem keepApart_reordered (keep : KeepApart turns)
    (same : ∀ client, requests client turns = requests client others) : KeepApart others := by
  have find {turn : Turn κ} (member : turn ∈ others) :=
    turn_of_request (fun client => (same client).symm) member
  refine ⟨fun turn member => ?_, fun turn member other there level => ?_⟩
  · obtain ⟨twin, twin_member, -, request⟩ := find member
    rw [← show twin.call.operation = turn.call.operation from congrArg Request.operation request]
    exact keep.placed twin twin_member
  · obtain ⟨twin, twin_member, client, request⟩ := find member
    obtain ⟨partner, partner_member, client_other, request_other⟩ := find there
    rw [← client, ← client_other]
    refine keep.apart twin twin_member partner partner_member ?_
    rw [show twin.call.operation = turn.call.operation from congrArg Request.operation request,
      show partner.call.operation = other.call.operation from
        congrArg Request.operation request_other]
    exact level

private theorem heightsOf_reordered
    (same : ∀ client, requests client turns = requests client others) (client : κ) :
    heightsOf client turns ⊆ heightsOf client others := by
  rintro k ⟨turn, member, rfl, height, place, level⟩
  obtain ⟨twin, there, client, request⟩ := turn_of_request same member
  refine ⟨twin, there, client, height, ?_, level⟩
  rw [show twin.call.operation = turn.call.operation from congrArg Request.operation request]
  exact place

private theorem serve_client (keep : KeepApart turns) (client : κ) {solo : List (Turn κ)}
    (same : requests client turns = solo.map Turn.request) {db : Database}
    (serviceable : db.Serviceable) :
    outcomes client (serve turns db).1 =
      (serve solo db).1.map (fun one => (one.1.call.operation, one.2)) ∧
    AlikeAt (heightsOf client turns) (serve turns db).2 (serve solo db).2 := by
  refine serve_mine same (fun turn member own => ?_) (fun turn member foreign => ?_) serviceable
    serviceable ⟨⟨rfl, rfl⟩, fun k _ => rfl⟩
  · obtain ⟨height, place⟩ := Option.isSome_iff_exists.mp (keep.placed turn member)
    exact ⟨height, place, turn, member, eq_of_beq own, height, place, rfl⟩
  · obtain ⟨height, place⟩ := Option.isSome_iff_exists.mp (keep.placed turn member)
    refine ⟨height, place, ?_⟩
    rintro ⟨other, there, rfl, level, place_other, equal⟩
    obtain rfl : level = height := UInt32.toNat_inj.mp (Int.ofNat_inj.mp equal)
    have owner := keep.apart turn member other there (place.trans place_other.symm)
    rw [owner, beq_self_eq_true] at foreign
    cases foreign

omit [DecidableEq κ] in
private theorem slot_untouched (keep : KeepApart turns) {k : Int}
    (untouched : ∀ client, k ∉ heightsOf client turns) {db : Database}
    (serviceable : db.Serviceable) : (serve turns db).2.slot k = db.slot k := by
  have apart : ∀ turn ∈ turns, turn.Apart {k} := by
    intro turn member
    obtain ⟨height, place⟩ := Option.isSome_iff_exists.mp (keep.placed turn member)
    refine ⟨height, place, fun here => ?_⟩
    exact untouched turn.client ⟨turn, member, rfl, height, place, Set.mem_singleton_iff.mp here⟩
  have nobody : (turns.filter fun _ => false).map Turn.request =
      ([] : List (Turn κ)).map Turn.request := by simp
  have alike : AlikeAt {k} (serve turns db).2 db :=
    (serve_mine nobody (fun turn _ own => by cases own) (fun turn member _ => apart turn member)
      serviceable serviceable ⟨⟨rfl, rfl⟩, fun _ _ => rfl⟩).2
  exact (alike.slots k (Set.mem_singleton k)).symm

private theorem slot_reordered (keep : KeepApart turns)
    (same : ∀ client, requests client turns = requests client others) {db : Database}
    (serviceable : db.Serviceable) (k : Int) :
    (serve others db).2.slot k = (serve turns db).2.slot k := by
  have keep_others := keepApart_reordered keep same
  have back : ∀ client, requests client others = requests client turns :=
    fun client => (same client).symm
  by_cases touched : ∃ client, k ∈ heightsOf client turns
  · obtain ⟨client, member⟩ := touched
    have one := (serve_client keep client rfl serviceable).2.slots k member
    have other := (serve_client keep_others client (back client) serviceable).2.slots k
      (heightsOf_reordered same client member)
    exact other.symm.trans one
  · have untouched : ∀ client, k ∉ heightsOf client turns :=
      fun client member => touched ⟨client, member⟩
    have untouched_others : ∀ client, k ∉ heightsOf client others :=
      fun client member => untouched client (heightsOf_reordered back client member)
    rw [slot_untouched keep untouched serviceable,
      slot_untouched keep_others untouched_others serviceable]

private theorem accepted_reordered {db other : Database}
    (same : ∀ client, outcomes client (serve turns db).1 = outcomes client (serve others other).1)
    {height : Height}
    (accepted : height ∈ (serve turns db).1.filterMap
      fun one => acceptedIn (one.1.call.operation, one.2)) :
    height ∈ (serve others other).1.filterMap
      fun one => acceptedIn (one.1.call.operation, one.2) := by
  obtain ⟨one, served, reached⟩ := List.mem_filterMap.mp accepted
  have told : (one.1.call.operation, one.2) ∈ outcomes one.1.client (serve others other).1 := by
    rw [← same]
    exact List.mem_map.mpr ⟨one, List.mem_filter.mpr ⟨served, beq_self_eq_true _⟩, rfl⟩
  obtain ⟨twin, chosen, equal⟩ := List.mem_map.mp told
  exact List.mem_filterMap.mpr ⟨twin, (List.mem_filter.mp chosen).1, equal ▸ reached⟩

/-- Clients who keep apart, each changing single heights that no other client changes, may be served
in any two orders that respect the order of each: all calls are answered the same, the blocks and
the height of the tip end up the same, and so does every answer of a lookup that does not ask for
the order between heights. -/
theorem serve_reordered {db : Database} (serviceable : db.Serviceable) (keep : KeepApart turns)
    (same : ∀ client, requests client turns = requests client others) :
    let one := serve turns db
    let other := serve others db
    (∀ client, outcomes client one.1 = outcomes client other.1) ∧
      one.2.blocks = other.2.blocks ∧ one.2.tipHeight = other.2.tipHeight ∧
      ∀ (reader : Connection) (call : Call), call.operation.orderless = true →
        (call.perform (reader.holding one.2)).1 = (call.perform (reader.holding other.2)).1 := by
  intro one other
  have keep_others := keepApart_reordered keep same
  have answers : ∀ client, outcomes client one.1 = outcomes client other.1 := by
    intro client
    rw [(serve_client keep client (same client) serviceable).1,
      (serve_client keep_others client rfl serviceable).1]
  have serves := serviceable_serve serviceable turns
  have serves_other := serviceable_serve serviceable others
  have slots := slot_reordered keep same serviceable
  have blocks : one.2.blocks = other.2.blocks := by
    obtain ⟨table, stored⟩ := serves.blocks
    obtain ⟨table_other, stored_other⟩ := serves_other.blocks
    have held : table = table_other := by
      refine BlockTable.ext_row? fun k => ?_
      have equal := congrArg Slot.block (slots k)
      simpa only [Database.slot, stored, stored_other, Option.getD_some] using equal.symm
    rw [stored, stored_other, held]
  have tip : one.2.tipHeight = other.2.tipHeight := by
    obtain ⟨found, read⟩ := serviceable.tip
    rw [tipHeight_serve keep.placed read, tipHeight_serve keep_others.placed read]
    refine congrArg Except.ok (max?_congr fun height => ?_)
    rw [List.mem_append, List.mem_append]
    exact or_congr_right ⟨accepted_reordered answers,
      accepted_reordered fun client => (answers client).symm⟩
  have access : one.2.SameAccess other.2 := by
    obtain ⟨locked, logged⟩ := access_serve turns db
    obtain ⟨locked_other, logged_other⟩ := access_serve others db
    exact ⟨locked_other.trans locked.symm, logged_other.trans logged.symm⟩
  refine ⟨answers, blocks, tip, fun reader call orderless => ?_⟩
  exact (orderless_perform serves serves_other ⟨blocks.symm, tip.symm, slots, access⟩ orderless
    reader).symm

end Clients

/-- A client that raises the tip, removes a block and one that is not there, and files two
transactions at one height, and another one that counts and refiles transactions higher up. -/
private def crossing (swapped : Bool) : List (Turn Bool) :=
  let turn (client : Bool) (operation : Operation) (now : Int) : Turn Bool :=
    ⟨client, Layout.fresh, operation, false, now⟩
  let accept := turn true (.acceptBlock ⟨30, "ab", "", false, [1]⟩)
  let remove := turn true (.removeBlock 3)
  let file (payload : Payload) := turn true (.addTransaction ⟨30, "ab", 0, "t", payload⟩)
  let acceptLower := turn false (.acceptBlock ⟨20, "cd", "", false, [2]⟩)
  let clear := turn false (.removeTransactions 20)
  let refile := turn false (.addTransaction ⟨20, "cd", 0, "t", []⟩)
  if swapped then
    [refile 1, acceptLower 2, accept 3, clear 4, remove 5, remove 6, file [1] 7, file [2] 8,
      refile 9]
  else
    [accept 1, remove 2, remove 3, file [1] 4, file [2] 5, refile 6, acceptLower 7, clear 8,
      refile 9]

/-- A tip that points at no block, and a block below it. -/
private def shared : Database :=
  { Layout.laidOut .blank with
    blocks := some (BlockTable.empty.put (.ofBlock ⟨3, "ef", "", true, []⟩))
    tip := some (some ⟨25, 0⟩) }

theorem crossed_serve_reordered :
    shared.Serviceable ∧ KeepApart (crossing false) ∧
      (∀ client, requests client (crossing false) = requests client (crossing true)) ∧
      outcomes true (serve (crossing false) shared).1 =
        outcomes true (serve (crossing true) shared).1 ∧
      (serve (crossing false) shared).2.tipHeight = (serve (crossing true) shared).2.tipHeight ∧
      (serve (crossing true) shared).2.tipHeight = .ok (some 30) ∧
      (serve (crossing false) shared).2 ≠ (serve (crossing true) shared).2 := by
  have serviceable : shared.Serviceable := ⟨⟨some 25, rfl⟩, ⟨_, rfl⟩, ⟨_, rfl⟩, rfl⟩
  have keep : KeepApart (crossing false) := ⟨by decide, by decide⟩
  have same : ∀ client, requests client (crossing false) = requests client (crossing true) := by
    decide
  obtain ⟨answers, -, tip, -⟩ := serve_reordered serviceable keep same
  exact ⟨serviceable, keep, same, answers true, tip, by decide +kernel, by decide +kernel⟩

end ChainStore.Cache
