import Gatehouse.Proofs.Clash

/-!
# Changes of staff side by side

Two requests to change the access of staff that take turns: each decides by what it has read, and
writes later without looking again. Main statements: a request that has the world to itself does
what the directory says (`StaffRequest.perform_action`); requests that take turns come out as they
would one after the other, unless they clash (`administration_serializable`), and those that clash
do not (`Clash.not_serially`).
-/

namespace Gatehouse

/-! ## Writing -/

/-- Whether a call writes to the directory. -/
def RequestCall.writesDirectory : RequestCall → Bool
  | .store (.directory call) => !call.reads
  | _ => false

section Writing

variable {service : Service} {target : PrincipalId} {exchanges : List (Exchange requests)}

/-- Nothing is written to the directory while a request decides. -/
theorem StaffRequest.deciding_reads (request : StaffRequest) :
    Action.Within (fun call => call.writesDirectory = false) (fun _ _ => True) (fun _ => True)
      (request.deciding service) := by
  have licence : service.Licence (fun call => call.writesDirectory = false) (fun _ _ => True) := by
    refine ⟨?_, fun _ _ => rfl, fun _ _ => rfl, fun _ _ _ _ => rfl⟩
    rintro ((_ | _ | call) | _) hlooks
    · rfl
    · rfl
    · exact (congrArg Bool.not hlooks : _ = false)
    · rfl
  refine Action.Within.andThen
    ((Service.permissions_within licence request.claims).mono (fun _ _ => trivial)) ?_
  intro caller
  have hmanaged : Action.Within (fun call => call.writesDirectory = false) (fun _ _ => True)
      (fun _ => True) (Service.managedTarget caller request.target) :=
    (Service.managedTarget_within licence.read caller request.target).mono (fun _ _ => trivial)
  have hbatch (stores : List StoreId) :
      Action.Within (fun call => call.writesDirectory = false) (fun _ _ => True) (fun _ => True)
        (Service.checkBatch caller request.target stores) :=
    (Service.checkBatch_within licence.read caller request.target stores).mono (fun _ _ => trivial)
  cases request.change with
  | role newRole =>
    refine Action.Within.andThen hmanaged (fun managed => ?_)
    split
    · exact Action.within_throw _
    · exact Action.within_pure trivial
  | active isActive => exact hmanaged.map (fun _ _ => trivial)
  | grant stores => exact hbatch stores
  | revoke stores => exact hbatch stores

/-- A path through one call to the directory and the dropping of a context begins with that call,
which decides about the outcome and is the only one to the directory. -/
theorem Service.follows_forget {call : Directory.Call}
    {change : Except StorageError call.Value → Except AuthError Unit} {write : Action Unit}
    (hwrite : ∀ exchanges outcome, Program.Follows write.request exchanges (.done outcome) →
      ∃ reply : Except StorageError call.Value,
        exchanges = [⟨.store (.directory call), reply⟩] ∧ outcome = change reply)
    {outcome : Except AuthError Unit}
    (h : Program.Follows (write >>= fun _ => forget .staff target).request exchanges
      (.done outcome)) :
    ∃ (reply : Except StorageError call.Value) (later : List (Exchange requests)),
      exchanges = ⟨.store (.directory call), reply⟩ :: later ∧
        (∀ exchange ∈ later, exchange.call.writesDirectory = false) ∧ outcome = change reply := by
  rcases Action.follows_bind h with ⟨error, rfl, hpath⟩ | ⟨_, first, second, rfl, hpath, hforget⟩
  · obtain ⟨reply, rfl, houtcome⟩ := hwrite _ _ hpath
    exact ⟨reply, [], rfl, by rintro _ ⟨⟩, houtcome⟩
  · obtain ⟨reply, rfl, houtcome⟩ := hwrite _ _ hpath
    obtain ⟨_, rfl, hdrop⟩ := Action.follows_always hforget
    obtain ⟨_, _, _, rfl, hdelete, hdone⟩ := Program.Follows.of_bind hdrop
    obtain rfl := Program.Follows.of_call (I := requests) hdelete
    cases hdone
    refine ⟨reply, _, rfl, ?_, houtcome⟩
    intro exchange hmem
    obtain rfl := List.mem_singleton.1 hmem
    rfl

/-- A path through the writing of a change begins with the call that writes it, which decides about
the outcome and is the only one to the directory. -/
theorem StaffChange.follows_writing {change : StaffChange} {outcome : Except AuthError Unit}
    (h : Program.Follows (change.writing target).request exchanges (.done outcome)) :
    ∃ (reply : Except StorageError (change.call target).Value) (later : List (Exchange requests)),
      exchanges = ⟨.store (.directory (change.call target)), reply⟩ :: later ∧
        (∀ exchange ∈ later, exchange.call.writesDirectory = false) ∧
          outcome = change.outcome target reply := by
  -- the value of a write is not looked at, but for that of a grant, which is none
  have hdiscard (call : Directory.Call) (exchanges : List (Exchange requests))
      (outcome : Except AuthError Unit)
      (h : Program.Follows (discard (Action.directory call) : Action Unit).request exchanges
        (.done outcome)) :
      ∃ reply : Except StorageError call.Value,
        exchanges = [⟨.store (.directory call), reply⟩] ∧
          outcome = (reply.mapError .storage).map (fun _ => ()) := by
    obtain ⟨_, rfl, hcall⟩ := Action.follows_map h
    obtain ⟨reply, rfl, hask⟩ := Action.follows_ofRequest hcall
    exact ⟨reply, Program.Follows.of_call (I := requests) hask, rfl⟩
  cases change with
  | role newRole => exact Service.follows_forget (hdiscard (.setRole target newRole)) h
  | active isActive => exact Service.follows_forget (hdiscard (.setActive target isActive)) h
  | grant stores =>
    have hgrant (exchanges : List (Exchange requests)) (outcome : Except AuthError Unit)
        (h : Program.Follows (Action.ofRequest grantFailure
          (Request.directory (.grantStores target stores)) : Action Unit).request exchanges
            (.done outcome)) :
        ∃ reply : Except StorageError (Directory.Call.grantStores target stores).Value,
          exchanges = [⟨.store (.directory (.grantStores target stores)), reply⟩] ∧
            outcome = (grant stores).outcome target reply := by
      obtain ⟨reply, rfl, hask⟩ := Action.follows_ofRequest h
      refine ⟨reply, Program.Follows.of_call (I := requests) hask, ?_⟩
      cases reply <;> rfl
    exact Service.follows_forget hgrant h
  | revoke stores => exact Service.follows_forget (hdiscard (.revokeStores target stores)) h

end Writing

/-! ## In a world -/

/-- A world with a directory, and a cache that holds only contexts that some directories give. -/
structure World.Reflects (among : List Directory.Table) (directory : Directory.Table)
    (world : World) : Prop where
  /-- The directory is the one that is meant. -/
  directory_eq : world.directory = directory
  /-- What is cached was given by one of the directories. -/
  cached : ∀ entry ∈ world.keyValue.entries, entry.isLiveAt world.clock.instant = true →
    ∀ kind id, entry.key = ContextCache.keyFor kind id → Echoes among kind id entry.value

section Worlds

variable {among : List Directory.Table} {directory : Directory.Table} {world : World}

/-- A coherent cache holds what the directory gives. -/
theorem World.Coherent.reflects (h : world.Coherent (fun _ _ => True)) :
    world.Reflects [world.directory] world.directory := by
  refine ⟨rfl, ?_⟩
  intro entry hmem hlive kind id hkey
  obtain ⟨context, hcontext, hvalue⟩ := h kind id trivial entry hmem hkey hlive
  exact ⟨world.directory, List.mem_singleton_self _, context, hcontext, hvalue⟩

/-- Calls that do not write to the directory leave it as it is. -/
theorem World.directory_handler_of_reads (around : Surroundings) (world : World)
    {call : RequestCall} (h : call.writesDirectory = false) :
    (World.handler around call world).2.directory = world.directory := by
  rw [handler_directory]
  split
  · rename_i call
    cases call <;> first | rfl | cases h
  · rfl

/-- Calls that cache only what the directories give, and do not write to the directory, leave a
world as it should be; and what they are told is seen of the directories. -/
theorem World.Reflects.handler (h : world.Reflects among directory) (hmem : directory ∈ among)
    (around : Surroundings) {call : RequestCall} (hkeeps : Keeps among call)
    (hreads : call.writesDirectory = false) :
    (World.handler around call world).2.Reflects among directory ∧
      ∀ reply ∈ (World.handler around call world).1, Seen among call reply := by
  refine ⟨⟨(directory_handler_of_reads around world hreads).trans h.directory_eq, ?_⟩, ?_⟩
  · intro entry hentry hlive kind id hkey
    rcases mem_entries_handler hentry with hold | ⟨setting, rfl, hset⟩
    · have hearlier := KeyValue.Entry.isLiveAt_of_le (clock_handler_le around call world) hlive
      exact h.cached entry hold hearlier kind id hkey
    · exact hkeeps kind id entry.value (hkey ▸ hset)
  · rcases call with (call | call | call) | call
    · cases call with
      | get key =>
        rintro _ ⟨⟩ value hvalue kind id rfl
        obtain ⟨entry, hentry, hkey, rfl, hlive⟩ :=
          KeyValue.Table.exists_mem_of_get (Except.ok.inj hvalue)
        exact h.cached entry hentry hlive kind id hkey
      | _ => exact fun _ _ => trivial
    · exact fun _ _ => trivial
    · rintro _ ⟨⟩
      exact ⟨directory, hmem, h.directory_eq ▸ rfl⟩
    · exact fun _ _ => trivial

/-- The calls that a request makes on its own without fail where the clock can show the end of a
lifetime. -/
def Lasts (ttl : Duration) : RequestCall → Prop
  | .store (.keyValue (.set _ _ lifetime)) => lifetime = ttl
  | .store (.keyValue (.setIfAbsent _ _ _)) => False
  | .outside (.pause _) => False
  | _ => True

/-- Such calls have an answer, and take no time. -/
theorem World.handler_of_lasts {ttl : Duration} {call : RequestCall} (h : Lasts ttl call)
    (hshow : world.clock.CanShow ttl) (around : Surroundings) :
    (∃ reply, (World.handler around call world).1 = some reply) ∧
      (World.handler around call world).2.clock = world.clock := by
  rcases call with (call | call | call) | call
  · cases call with
    | set key value lifetime =>
      obtain rfl : lifetime = ttl := h
      obtain ⟨deadline, hdeadline⟩ := Option.isSome_iff_exists.1 hshow
      simp only [World.handler, answerStore, KeyValue.Table.answer, KeyValue.Table.set, hdeadline]
      exact ⟨⟨_, rfl⟩, rfl⟩
    | setIfAbsent => cases h
    | _ => exact ⟨⟨_, rfl⟩, rfl⟩
  · exact ⟨⟨_, rfl⟩, rfl⟩
  · exact ⟨⟨_, rfl⟩, rfl⟩
  · cases call with
    | pause => cases h
    | _ => exact ⟨⟨_, rfl⟩, rfl⟩

end Worlds

namespace StaffRequest

variable {service : Service} {world : World} (around : Surroundings)

/-- A request that has the world to itself decides as the directory says. -/
theorem perform_deciding (hcoherent : world.Coherent (fun _ _ => True))
    (hshow : world.clock.CanShow service.contextTtl) (request : StaffRequest) :
    ∃ after, Action.perform (World.handler around) (request.deciding service) world =
        (some (request.verdict world.directory), after) ∧
      after.directory = world.directory ∧ after.clock = world.clock := by
  have licence : service.Licence (fun call => Keeps [world.directory] call ∧
      call.writesDirectory = false ∧ Lasts service.contextTtl call) (Seen [world.directory]) := by
    have hkeeps := keeps_licence service (untorn_singleton world.directory)
    refine ⟨?_, ?_, ?_, ?_⟩
    · rintro call hlooks
      refine ⟨hkeeps.look call hlooks, ?_⟩
      rcases call with (_ | _ | call) | call
      · cases hlooks
      · exact ⟨rfl, trivial⟩
      · exact ⟨congrArg Bool.not hlooks, trivial⟩
      · cases call <;> first | exact ⟨rfl, trivial⟩ | cases hlooks
    · exact fun kind id => ⟨hkeeps.consult kind id, rfl, trivial⟩
    · exact fun kind id => ⟨hkeeps.drop kind id, rfl, trivial⟩
    · exact fun kind id context h => ⟨hkeeps.keep kind id context h, rfl, rfl⟩
  have hkeep (call : RequestCall) (now : World)
      (hnow : now.Reflects [world.directory] world.directory ∧ now.clock = world.clock)
      (hcall : Keeps [world.directory] call ∧ call.writesDirectory = false ∧
        Lasts service.contextTtl call) :
      ((World.handler around call now).2.Reflects [world.directory] world.directory ∧
          (World.handler around call now).2.clock = world.clock) ∧
        ∃ reply, (World.handler around call now).1 = some reply ∧
          Seen [world.directory] call reply := by
    obtain ⟨hreflects, hclock⟩ := hnow
    obtain ⟨hkeeps, hreads, hlasts⟩ := hcall
    obtain ⟨hafter, hseen⟩ :=
      hreflects.handler (List.mem_singleton_self _) around hkeeps hreads
    obtain ⟨⟨reply, hreply⟩, htime⟩ := World.handler_of_lasts hlasts (hclock ▸ hshow) around
    exact ⟨⟨hafter, htime.trans hclock⟩, reply, hreply, hseen reply hreply⟩
  obtain ⟨outcome, after, hrun, ⟨hreflects, hclock⟩, directory, hmem, rfl⟩ :=
    Program.Within.completes (deciding_ends licence (untorn_singleton world.directory) request)
      hkeep ⟨hcoherent.reflects, rfl⟩
  obtain rfl := List.mem_singleton.1 hmem
  exact ⟨after, hrun, hreflects.directory_eq, hclock⟩

/-- Writing a change does in a world what the directory says. -/
theorem perform_writing (world : World) (change : StaffChange) (target : PrincipalId) :
    ∃ keyValue, Action.perform (World.handler around) (change.writing target) world =
      (some (change.carry world.directory target).1,
        { world with directory := (change.carry world.directory target).2, keyValue }) := by
  -- a context is dropped after a write that succeeds
  have hforget {write : Action Unit} {outcome : Except AuthError Unit}
      {directory : Directory.Table} (hwrite : Action.perform (World.handler around) write world =
        (some outcome, { world with directory })) :
      ∃ keyValue, Action.perform (World.handler around)
          (write >>= fun _ => Service.forget .staff target) world =
        (some outcome, { world with directory, keyValue }) := by
    rw [Action.perform_bind, hwrite]
    cases outcome with
    | error error => exact ⟨world.keyValue, rfl⟩
    | ok value => exact ⟨_, perform_forget around _ .staff target⟩
  cases change with
  | role newRole => exact hforget (perform_discard_directory around world (.setRole target newRole))
  | active isActive =>
    exact hforget (perform_discard_directory around world (.setActive target isActive))
  | grant stores =>
    have houtcome (reply : Except StorageError Unit) :
        reply.mapError StaffChange.grantFailure =
          (StaffChange.grant stores).outcome target reply := by
      cases reply <;> rfl
    obtain ⟨keyValue, hrun⟩ := hforget (perform_ofRequest_directory around world
      (.grantStores target stores))
    refine ⟨keyValue, hrun.trans ?_⟩
    exact congrArg (fun outcome => (some outcome, _)) (houtcome _)
  | revoke stores =>
    exact hforget (perform_discard_directory around world (.revokeStores target stores))

/-- A request that has the world to itself does what the directory says, and leaves the cache
coherent. -/
theorem perform_action (hcoherent : world.Coherent (fun _ _ => True))
    (hshow : world.clock.CanShow service.contextTtl) (request : StaffRequest) :
    ∃ after, Action.perform (World.handler around) (request.operation.action service) world =
        (some ((request.serve world.directory).1.map fun _ => .done), after) ∧
      after.directory = (request.serve world.directory).2 ∧
        after.clock = world.clock ∧ after.Coherent (fun _ _ => True) := by
  have hmap : request.operation.action service =
      (fun _ => Answer.done) <$>
        request.change.action service request.claims request.target := by
    rw [operation]
    cases request.change <;> rfl
  have hsettles : Settles (fun _ _ => True) (request.operation.action service) := by
    refine request.operation.settles service ?_
    intro idToken client
    rw [operation]
    cases request.change <;> rintro ⟨⟩
  obtain ⟨mid, hdecide, hdirectory, hclock⟩ := perform_deciding around hcoherent hshow request
  obtain ⟨keyValue, hwrite⟩ := perform_writing around mid request.change request.target
  have hrun : ∃ after,
      Action.perform (World.handler around)
          (request.change.action service request.claims request.target) world =
        (some (request.serve world.directory).1, after) ∧
      after.directory = (request.serve world.directory).2 ∧ after.clock = world.clock := by
    rw [action_eq, Action.perform_bind, hdecide, serve]
    rcases request.verdict world.directory with error | _
    · exact ⟨mid, rfl, hdirectory, hclock⟩
    · rw [hdirectory] at hwrite
      exact ⟨_, hwrite, rfl, hclock⟩
  obtain ⟨after, hrun, hafter, hclock⟩ := hrun
  have hcoherent := hsettles around world hcoherent
  rw [hmap, Action.perform_map, hrun] at hcoherent ⊢
  exact ⟨after, rfl, hafter, hclock, hcoherent⟩

end StaffRequest

/-! ## Taking turns -/

/-- What a request that has ended has done: it was refused, or it read, wrote and read no more. -/
theorem StaffRequest.follows_operation {service : Service} {request : StaffRequest}
    {exchanges : List (Exchange requests)} {outcome : Except AuthError Answer}
    (h : Program.Follows (request.operation.request service) exchanges (.done outcome)) :
    (∃ error, outcome = .error error ∧
        Program.Follows (request.deciding service).request exchanges (.done (.error error))) ∨
      ∃ (reads later : List (Exchange requests))
        (reply : Except StorageError (request.change.call request.target).Value),
        exchanges =
            reads ++ ⟨.store (.directory (request.change.call request.target)), reply⟩ :: later ∧
          Program.Follows (request.deciding service).request reads (.done (.ok ())) ∧
            (∀ exchange ∈ later, exchange.call.writesDirectory = false) ∧
              outcome = (request.change.outcome request.target reply).map (fun _ => .done) := by
  have hmap : request.operation.request service = Action.request ((fun _ => Answer.done) <$>
      request.change.action service request.claims request.target) := by
    rw [operation]
    cases request.change <;> rfl
  rw [hmap] at h
  obtain ⟨result, rfl, hpath⟩ := Action.follows_map h
  rw [action_eq] at hpath
  rcases Action.follows_bind hpath with ⟨error, rfl, hreads⟩ | ⟨_, reads, rest, rfl, hreads, hrest⟩
  · exact .inl ⟨error, rfl, hreads⟩
  · obtain ⟨reply, later, rfl, hlater, rfl⟩ := StaffChange.follows_writing hrest
    exact .inr ⟨reads, later, reply, rfl, hreads, hlater, rfl⟩

/-- A change is written to the directory. -/
theorem StaffChange.writesDirectory_call (change : StaffChange) (target : PrincipalId) :
    (RequestCall.store (.directory (change.call target))).writesDirectory = true := by
  cases change <;> rfl

section Schedules

variable {service : Service} {among : List Directory.Table} {request : StaffRequest}
  {exchanges : List (Exchange requests)}

/-- A request that has decided has done so by one of the directories that it has read from, and has
written nothing. -/
theorem StaffRequest.decided (huntorn : Untorn among) {verdict : Except AuthError Unit}
    (h : Program.Follows (request.deciding service).request exchanges (.done verdict))
    (hseen : ∀ exchange ∈ exchanges, Seen among exchange.call exchange.reply) :
    ∃ read ∈ among, request.verdict read = verdict := by
  obtain ⟨read, hread, hverdict⟩ := Program.Within.follows
    (request.deciding_ends (keeps_licence service huntorn) huntorn) h hseen
  exact ⟨read, hread, hverdict.symm⟩

/-- A request that decides writes nothing. -/
theorem StaffRequest.reads_of_deciding {rest : Request (Except AuthError Unit)}
    (h : Program.Follows (request.deciding service).request exchanges rest) :
    ∀ exchange ∈ exchanges, exchange.call.writesDirectory = false :=
  Program.Within.allowed_of_follows request.deciding_reads h (fun _ _ => trivial)

/-- A request that has written nothing was refused by one of the directories that it has read from.
-/
theorem StaffRequest.refused (huntorn : Untorn among) {outcome : Except AuthError Answer}
    (h : Program.Follows (request.operation.request service) exchanges (.done outcome))
    (hseen : ∀ exchange ∈ exchanges, Seen among exchange.call exchange.reply)
    (hreads : ∀ exchange ∈ exchanges, exchange.call.writesDirectory = false) :
    ∃ read ∈ among, ∃ error, request.verdict read = .error error ∧ outcome = .error error := by
  rcases follows_operation h with ⟨error, rfl, hdecided⟩ | ⟨reads, later, reply, rfl, -, -, -⟩
  · obtain ⟨read, hread, hverdict⟩ := decided huntorn hdecided hseen
    exact ⟨read, hread, error, hverdict, rfl⟩
  · have hnone := hreads _ (List.mem_append_right _ List.mem_cons_self)
    rw [request.change.writesDirectory_call] at hnone
    cases hnone

/-- A request that has written was passed by one of the directories that it had read from before,
and writes no more. -/
theorem StaffRequest.passed (huntorn : Untorn among) {outcome : Except AuthError Answer}
    {reads later : List (Exchange requests)} {write : Exchange requests}
    (h : Program.Follows (request.operation.request service) (reads ++ write :: later)
      (.done outcome))
    (hseen : ∀ exchange ∈ reads, Seen among exchange.call exchange.reply)
    (hreads : ∀ exchange ∈ reads, exchange.call.writesDirectory = false)
    (hwrite : write.call.writesDirectory = true) :
    (∃ read ∈ among, request.verdict read = .ok ()) ∧
      (∃ reply : Except StorageError (request.change.call request.target).Value,
        write = ⟨.store (.directory (request.change.call request.target)), reply⟩ ∧
          outcome = (request.change.outcome request.target reply).map (fun _ => .done)) ∧
        ∀ exchange ∈ later, exchange.call.writesDirectory = false := by
  rcases follows_operation h with
    ⟨error, -, hdecided⟩ | ⟨reads', later', reply, heq, hdecided, hlater, rfl⟩
  · have hnone := reads_of_deciding hdecided _ (List.mem_append_right _ List.mem_cons_self)
    rw [hwrite] at hnone
    cases hnone
  -- what it has written is the first that anybody sees of it
  · obtain ⟨rfl, rfl, rfl⟩ := cut_unique heq hreads (reads_of_deciding hdecided) hwrite
      (request.change.writesDirectory_call request.target)
    exact ⟨decided huntorn hdecided hseen, ⟨reply, rfl, rfl⟩, hlater⟩

variable {stage : Stage Operation (Except AuthError Answer)}

/-- While nothing is written to the directory, requests see what some directories give, as they have
done before, and cache nothing else. -/
theorem World.Reflects.chronicle (hsound : stage.Sound (Operation.request service))
    (huntorn : Untorn among) {directory : Directory.Table} (hmem : directory ∈ among)
    {past now later : List Deed} (hjournal : stage.journal = past ++ (now ++ later))
    (hpast : ∀ deed ∈ past, Seen among deed.exchange.call deed.exchange.reply)
    (hreads : ∀ deed ∈ now, deed.exchange.call.writesDirectory = false) {before after : World}
    (hnow : Chronicle before now after) (hbefore : before.Reflects among directory) :
    after.Reflects among directory ∧
      ∀ deed ∈ now, Seen among deed.exchange.call deed.exchange.reply := by
  refine hnow.keeps (fun world => world.Reflects among directory)
    (fun _ call => Keeps among call ∧ call.writesDirectory = false) (Seen among) ?_ ?_ ?_ hbefore
  · intro first deed second heq hfirst
    have hsplit : stage.journal = (past ++ first) ++ deed :: (second ++ later) := by
      rw [hjournal, heq]
      simp
    obtain ⟨task, next, -, hpath⟩ := hsound.exists_ask hsplit
    refine ⟨?_, hreads deed (heq ▸ List.mem_append_right _ List.mem_cons_self)⟩
    refine (Program.Within.follows (task.job.keeps service huntorn) hpath ?_).1
    intro exchange hexchange
    rcases List.mem_append.1 (mem_exchangesOf.1 hexchange) with hearly | hlate
    · exact hpast _ hearly
    · exact hfirst _ hlate
  · rintro _ around call world hworld ⟨hkeeps, hreads⟩
    exact hworld.handler hmem around hkeeps hreads
  -- time that passes only ends lifetimes
  · intro world duration hworld
    exact ⟨hworld.directory_eq, fun entry hentry hlive =>
      hworld.cached entry hentry (KeyValue.Entry.isLiveAt_of_le (Nat.le_add_right _ _) hlive)⟩

/-- While nothing is written to the directory, it stays as it is. -/
theorem Chronicle.directory_eq {before after : World} {journal : List Deed}
    (h : Chronicle before journal after)
    (hreads : ∀ deed ∈ journal, deed.exchange.call.writesDirectory = false) :
    after.directory = before.directory := by
  refine (h.keeps (fun world => world.directory = before.directory)
    (fun _ call => call.writesDirectory = false) (fun _ _ => True) ?_ ?_ ?_ rfl).1
  · rintro first deed second rfl -
    exact hreads deed (List.mem_append_right _ List.mem_cons_self)
  · intro _ around call world hworld hcall
    exact ⟨(World.directory_handler_of_reads around world hcall).trans hworld, fun _ _ => trivial⟩
  · exact fun _ _ hworld => hworld

/-- Two requests have ended on a stage on which nobody else has done anything. -/
structure Stage.Ended (stage : Stage Operation (Except AuthError Answer)) (number number' : Nat)
    (first second : StaffRequest) (outcome outcome' : Except AuthError Answer) : Prop where
  /-- The first request has ended. -/
  first_task : ∃ isBroken,
    stage.tasks[number]? = some ⟨first.operation, .done outcome, isBroken⟩
  /-- The second request has ended. -/
  second_task : ∃ isBroken,
    stage.tasks[number']? = some ⟨second.operation, .done outcome', isBroken⟩
  /-- The requests are two. -/
  ne : number ≠ number'
  /-- All that was done they have done. -/
  only : ∀ deed ∈ stage.journal, deed.request = number ∨ deed.request = number'

/-- The outcomes of operations and a directory that come of two requests, one of which decides
early. -/
def Answers (directory : Directory.Table) (first second : StaffRequest)
    (outcome outcome' : Except AuthError Answer) (last : Directory.Table) : Prop :=
  ∃ result result' : Except AuthError Unit, outcome = result.map (fun _ => .done) ∧
    outcome' = result'.map (fun _ => .done) ∧ Overlaps directory first second result result' last

variable {start : World} {number number' : Nat} {first second : StaffRequest}
  {outcome outcome' : Except AuthError Answer}

/-- Two requests that have ended, in the other order. -/
theorem Stage.Ended.symm (h : stage.Ended number number' first second outcome outcome') :
    stage.Ended number' number second first outcome' outcome :=
  ⟨h.second_task, h.first_task, h.ne.symm, fun deed hmem => (h.only deed hmem).symm⟩

/-- A request that writes to the directory carries its change out. -/
theorem StaffRequest.carry_of_handler {request : StaffRequest} {around : Surroundings}
    {before after : World} {reply : Except StorageError (request.change.call request.target).Value}
    (h : World.handler around (.store (.directory (request.change.call request.target))) before =
      (some reply, after)) :
    reply = (before.directory.answer (request.change.call request.target)).1 ∧
      after = { before with
        directory := (request.change.carry before.directory request.target).2 } :=
  ⟨(Option.some.inj (congrArg Prod.fst h)).symm, (congrArg Prod.snd h).symm⟩

/-- The request that alone writes from some point on has decided by a directory that was read from,
and has written to the directory as it was at that point. -/
theorem Stage.Sound.settled (hsound : stage.Sound (Operation.request service))
    (huntorn : Untorn among) {directory : Directory.Table} (hmem : directory ∈ among)
    {past rest : List Deed} (hjournal : stage.journal = past ++ rest)
    (hpast : ∀ deed ∈ past, Seen among deed.exchange.call deed.exchange.reply) {after : World}
    (hrest : Chronicle after rest stage.world) (hafter : after.Reflects among directory)
    {isBroken : Bool}
    (htask : stage.tasks[number]? = some ⟨request.operation, .done outcome, isBroken⟩)
    (hreads : ∀ exchange ∈ exchangesOf number past, exchange.call.writesDirectory = false)
    (honly : ∀ deed ∈ rest, deed.exchange.call.writesDirectory = true → deed.request = number) :
    ∃ result : Except AuthError Unit, outcome = result.map (fun _ => .done) ∧ ∃ read ∈ among,
      request.settle (request.verdict read) directory = (result, stage.world.directory) := by
  have hpath := hsound.follows number _ htask
  rw [hjournal, exchangesOf_append] at hpath
  have hjoin {motive : Exchange requests → Prop} {now : List Deed}
      (hpast : ∀ exchange ∈ exchangesOf number past, motive exchange)
      (hnow : ∀ exchange ∈ exchangesOf number now, motive exchange) :
      ∀ exchange ∈ exchangesOf number past ++ exchangesOf number now, motive exchange :=
    List.forall_mem_append.2 ⟨hpast, hnow⟩
  rcases cut_cases (fun deed : Deed => deed.exchange.call.writesDirectory) rest with
    hnone | ⟨now, write, later, rfl, hnow, hwrite⟩
  -- it was refused
  · obtain ⟨hlast, hseen⟩ := World.Reflects.chronicle hsound huntorn hmem
      (hjournal.trans (by rw [List.append_nil])) hpast hnone hrest hafter
    obtain ⟨read, hread, error, hverdict, rfl⟩ := StaffRequest.refused huntorn hpath
      (hjoin (forall_exchangesOf hpast) (forall_exchangesOf hseen))
      (hjoin hreads (forall_exchangesOf hnone))
    refine ⟨.error error, rfl, read, hread, ?_⟩
    rw [hverdict, StaffRequest.settle, hlast.directory_eq]
  -- it was passed, and wrote
  · obtain ⟨before, written, around, hbefore, hcall, hlater⟩ := hrest.split
    obtain ⟨hreflects, hseen⟩ := World.Reflects.chronicle hsound huntorn hmem hjournal hpast hnow
      hbefore hafter
    have hrequest : write.request = number :=
      honly write (List.mem_append_right _ List.mem_cons_self) hwrite
    rw [exchangesOf_append, ← hrequest, exchangesOf_cons_self, hrequest, ← List.append_assoc]
      at hpath
    obtain ⟨⟨read, hread, hverdict⟩, ⟨reply, hdeed, rfl⟩, hnone⟩ := StaffRequest.passed huntorn
      hpath (hjoin (forall_exchangesOf hpast) (forall_exchangesOf hseen))
      (hjoin hreads (forall_exchangesOf hnow)) hwrite
    rw [hdeed] at hcall
    obtain ⟨rfl, rfl⟩ := StaffRequest.carry_of_handler hcall
    have hlast : stage.world.directory = _ := hlater.directory_eq (by
      intro deed hdeed
      refine Bool.eq_false_iff.2 fun htrue => ?_
      have hown := honly deed (List.mem_append_right _ (List.mem_cons_of_mem _ hdeed)) htrue
      have hfalse := hnone deed.exchange (mem_exchangesOf.2 (hown ▸ hdeed))
      rw [htrue] at hfalse
      cases hfalse)
    refine ⟨_, rfl, read, hread, ?_⟩
    rw [hverdict, StaffRequest.settle, hlast, hreflects.directory_eq]
    rfl

/-- Of two requests the one that writes first is served by the directory at the start, and the other
one decides by that directory or by what it has become, and writes to what it has become. -/
theorem Stage.Ended.answers_of_write
    (h : stage.Ended number number' first second outcome outcome')
    (hsound : stage.Sound (Operation.request service))
    (hchronicle : Chronicle start stage.journal stage.world)
    (hcoherent : start.Coherent (fun _ _ => True)) {past rest : List Deed} {deed : Deed}
    (hjournal : stage.journal = past ++ deed :: rest)
    (hpast : ∀ deed ∈ past, deed.exchange.call.writesDirectory = false)
    (hwrite : deed.exchange.call.writesDirectory = true) (hrequest : deed.request = number) :
    Answers start.directory first second outcome outcome' stage.world.directory := by
  rw [hjournal] at hchronicle
  obtain ⟨before, after, around, hbefore, hcall, hrest⟩ := hchronicle.split
  -- up to the write, all is read from the directory at the start
  have hsplit : stage.journal = [] ++ (past ++ deed :: rest) := hjournal
  obtain ⟨hreflects, hseen⟩ := World.Reflects.chronicle hsound (untorn_singleton start.directory)
    (List.mem_singleton_self _) hsplit (by rintro _ ⟨⟩) hpast hbefore hcoherent.reflects
  obtain ⟨_, htask⟩ := h.first_task
  have hpath := hsound.follows number _ htask
  rw [hjournal, exchangesOf_append, ← hrequest, exchangesOf_cons_self, hrequest] at hpath
  obtain ⟨⟨read, hread, hverdict⟩, ⟨reply, hdeed, rfl⟩, hlater⟩ := StaffRequest.passed
    (untorn_singleton start.directory) hpath (forall_exchangesOf hseen) (forall_exchangesOf hpast)
    hwrite
  obtain rfl := List.mem_singleton.1 hread
  rw [hdeed] at hcall
  obtain ⟨hreply, rfl⟩ := StaffRequest.carry_of_handler hcall
  have hreply : reply =
      (start.directory.answer (first.change.call first.target)).1 := hreflects.directory_eq ▸ hreply
  have hserve : first.serve start.directory =
      first.change.carry start.directory first.target := by
    rw [StaffRequest.serve, hverdict, StaffRequest.settle]
  -- from then on it is read from that directory and from what it has become
  have hsub : ∀ read ∈ [start.directory], read ∈
      [start.directory, (first.serve start.directory).2] := by
    intro read hread
    exact List.mem_cons.2 (.inl (List.mem_singleton.1 hread))
  have hafter : World.Reflects [start.directory, (first.serve start.directory).2]
      (first.serve start.directory).2 { before with
        directory := (first.change.carry before.directory first.target).2 } := by
    refine ⟨by rw [hserve, hreflects.directory_eq], ?_⟩
    intro entry hentry hlive kind id hkey
    exact (hreflects.cached entry hentry hlive kind id hkey).mono hsub
  have hwritten : Seen [start.directory, (first.serve start.directory).2] deed.exchange.call
      deed.exchange.reply := by
    rw [hdeed]
    exact ⟨start.directory, List.mem_cons_self, hreply⟩
  have hknown : ∀ other ∈ past ++ [deed],
      Seen [start.directory, (first.serve start.directory).2] other.exchange.call
        other.exchange.reply := by
    intro other hother
    rcases List.mem_append.1 hother with hearly | hlate
    · exact (hseen other hearly).mono hsub
    · obtain rfl := List.mem_singleton.1 hlate
      exact hwritten
  have hreads : ∀ exchange ∈ exchangesOf number' (past ++ [deed]),
      exchange.call.writesDirectory = false := by
    rw [exchangesOf_append, exchangesOf_cons_of_ne (hrequest ▸ h.ne), exchangesOf_nil,
      List.append_nil]
    exact forall_exchangesOf hpast
  have honly : ∀ other ∈ rest, other.exchange.call.writesDirectory = true →
      other.request = number' := by
    intro other hother htrue
    have hmem : other ∈ stage.journal :=
      hjournal ▸ List.mem_append_right _ (List.mem_cons_of_mem _ hother)
    rcases h.only other hmem with hown | hown
    -- the first writes no more
    · have hfalse := hlater other.exchange (mem_exchangesOf.2 (hown ▸ hother))
      rw [htrue] at hfalse
      cases hfalse
    · exact hown
  obtain ⟨_, htask'⟩ := h.second_task
  obtain ⟨result', houtcome, hsettle⟩ := hsound.settled (untorn_serve start.directory first)
    (List.mem_cons_of_mem _ (List.mem_singleton_self _))
    (hjournal.trans (List.append_cons past deed rest)) hknown hrest hafter htask' hreads honly
  refine ⟨_, result', rfl, houtcome, ?_, hsettle⟩
  rw [hserve, hreply]
  rfl

/-- Two requests that take turns answer as if the one that writes last had decided early. -/
theorem Stage.Ended.answers
    (h : stage.Ended number number' first second outcome outcome')
    (hsound : stage.Sound (Operation.request service))
    (hchronicle : Chronicle start stage.journal stage.world)
    (hcoherent : start.Coherent (fun _ _ => True)) :
    Answers start.directory first second outcome outcome' stage.world.directory ∨
      Answers start.directory second first outcome' outcome stage.world.directory := by
  rcases cut_cases (fun deed : Deed => deed.exchange.call.writesDirectory) stage.journal with
    hnone | ⟨past, deed, rest, hjournal, hpast, hwrite⟩
  · have hsettled {number : Nat} {request : StaffRequest} {outcome : Except AuthError Answer}
        (htask : ∃ isBroken,
          stage.tasks[number]? = some ⟨request.operation, .done outcome, isBroken⟩) :
        ∃ result : Except AuthError Unit, outcome = result.map (fun _ => .done) ∧
          request.serve start.directory = (result, start.directory) := by
      obtain ⟨_, htask⟩ := htask
      obtain ⟨result, houtcome, read, hread, hsettle⟩ := hsound.settled
        (untorn_singleton start.directory) (List.mem_singleton_self _) (List.nil_append _).symm
        (by rintro _ ⟨⟩) hchronicle hcoherent.reflects htask (by rintro _ ⟨⟩)
        (fun deed hdeed htrue => absurd htrue (by rw [hnone deed hdeed]; decide))
      obtain rfl := List.mem_singleton.1 hread
      rw [hchronicle.directory_eq hnone] at hsettle
      exact ⟨result, houtcome, hsettle⟩
    obtain ⟨result, rfl, hserve⟩ := hsettled h.first_task
    obtain ⟨result', rfl, hserve'⟩ := hsettled h.second_task
    refine .inl ⟨result, result', rfl, rfl, by rw [hserve], start.directory, List.mem_cons_self, ?_⟩
    rw [hserve, hchronicle.directory_eq hnone]
    exact hserve'
  · have hmem : deed ∈ stage.journal := hjournal ▸ List.mem_append_right _ List.mem_cons_self
    rcases h.only deed hmem with hrequest | hrequest
    · exact .inl (h.answers_of_write hsound hchronicle hcoherent hjournal hpast hwrite hrequest)
    · exact .inr
        (h.symm.answers_of_write hsound hchronicle hcoherent hjournal hpast hwrite hrequest)

end Schedules

/-! ## The result -/

/-- Wherever two requests are carried out one after the other with a directory and a coherent cache,
they have these outcomes and leave a directory like this, if the clock can show the end of a
lifetime. -/
def Serially (service : Service) (directory : Directory.Table) (first second : StaffRequest)
    (outcome outcome' : Except AuthError Answer) (last : Directory.Table) : Prop :=
  ∀ around around' world, world.directory = directory → world.Coherent (fun _ _ => True) →
    world.clock.CanShow service.contextTtl → ∃ mid after,
      Action.perform (World.handler around) (first.operation.action service) world =
          (some outcome, mid) ∧
        Action.perform (World.handler around') (second.operation.action service) mid =
            (some outcome', after) ∧
          after.directory.Alike last

/-- Two requests that clash have both succeeded, and each has made its change. -/
structure Crossed (directory : Directory.Table) (first second : StaffRequest)
    (outcome outcome' : Except AuthError Answer) (last : Directory.Table) : Prop where
  /-- The requests clash. -/
  clash : Clash directory first second
  /-- The first has succeeded. -/
  first_ok : outcome = .ok .done
  /-- The second has succeeded. -/
  second_ok : outcome' = .ok .done
  /-- The first has made its change, and then the second. -/
  changes : ∃ mid, first.change.Changes first.target directory mid ∧
    second.change.Changes second.target mid last

/-- What a directory says to two requests is what comes of carrying them out one after the other. -/
theorem Serves.serially {service : Service} {directory last : Directory.Table}
    {first second : StaffRequest} {result result' : Except AuthError Unit}
    (h : Serves directory first second result result' last) :
    Serially service directory first second (result.map fun _ => .done)
      (result'.map fun _ => .done) last := by
  obtain ⟨rfl, rfl, halike⟩ := h
  rintro around around' world rfl hcoherent hshow
  obtain ⟨mid, hfirst, hmid, hclock, hcoherent⟩ :=
    StaffRequest.perform_action around hcoherent hshow first
  obtain ⟨after, hsecond, hafter, -, -⟩ :=
    StaffRequest.perform_action around' hcoherent (hclock ▸ hshow) second
  rw [hmid] at hsecond hafter
  exact ⟨mid, after, hfirst, hsecond, hafter ▸ halike⟩

/-- Requests that are carried out one after the other in a world come out as its directory says. -/
theorem Serially.serves {service : Service} {world : World} (around : Surroundings)
    (hcoherent : world.Coherent (fun _ _ => True)) (hshow : world.clock.CanShow service.contextTtl)
    {first second : StaffRequest} {result result' : Except AuthError Unit}
    {last : Directory.Table}
    (h : Serially service world.directory first second (result.map fun _ => .done)
      (result'.map fun _ => .done) last) :
    Serves world.directory first second result result' last := by
  -- an outcome tells the result
  have htells {one other : Except AuthError Unit}
      (heq : some (one.map fun _ => Answer.done) = some (other.map fun _ => Answer.done)) :
      one = other := by
    cases one <;> cases other <;> cases heq <;> rfl
  obtain ⟨mid, after, hfirst, hsecond, halike⟩ := h around around world rfl hcoherent hshow
  obtain ⟨mid', hfirst', hmid, hclock, hcoherent'⟩ :=
    StaffRequest.perform_action around hcoherent hshow first
  obtain ⟨hresult, rfl⟩ := Prod.mk.inj (hfirst'.symm.trans hfirst)
  obtain ⟨after', hsecond', hafter, -, -⟩ :=
    StaffRequest.perform_action around hcoherent' (hclock ▸ hshow) second
  obtain ⟨hresult', rfl⟩ := Prod.mk.inj (hsecond'.symm.trans hsecond)
  rw [hmid] at hresult' hafter
  exact ⟨htells hresult, htells hresult', hafter ▸ halike⟩

/-- Requests that clash, and are both made, come out as they would in neither order. -/
theorem Clash.not_serially {service : Service} {world : World} (around : Surroundings)
    (hcoherent : world.Coherent (fun _ _ => True)) (hshow : world.clock.CanShow service.contextTtl)
    {first second : StaffRequest} (h : Clash world.directory first second) :
    ¬ Serially service world.directory first second (.ok .done) (.ok .done)
        (second.made (first.made world.directory)) ∧
      ¬ Serially service world.directory second first (.ok .done) (.ok .done)
        (second.made (first.made world.directory)) :=
  ⟨fun hserially => h.not_serves.1 (Serially.serves around hcoherent hshow hserially),
    fun hserially => h.not_serves.2 (Serially.serves around hcoherent hshow hserially)⟩

/-- Two requests of which one decides early come out as one after the other, unless they clash. -/
theorem Answers.cases {service : Service} {directory last : Directory.Table}
    {first second : StaffRequest} {outcome outcome' : Except AuthError Answer}
    (h : Answers directory first second outcome outcome' last) :
    Serially service directory first second outcome outcome' last ∨
      Serially service directory second first outcome' outcome last ∨
        Crossed directory first second outcome outcome' last := by
  obtain ⟨result, result', rfl, rfl, hoverlaps⟩ := h
  rcases hoverlaps.cases with hserves | hserves | ⟨hclash, rfl, rfl, rfl⟩
  · exact .inl hserves.serially
  · exact .inr (.inl hserves.serially)
  · exact .inr (.inr ⟨hclash, rfl, rfl, _, StaffChange.changes_made directory _ _,
      StaffChange.changes_made _ _ _⟩)

/-- Two requests to change the access of staff that take turns, in whatever order, have the outcomes
and leave the directory that they would have and leave one after the other in one of the two orders,
if the cache is coherent at the start, unless they clash; then both succeed, and each makes its
change. -/
theorem administration_serializable {service : Service} {start : World}
    (hcoherent : start.Coherent (fun _ _ => True)) {turns : List (Turn Operation)}
    {stage : Stage Operation (Except AuthError Answer)}
    (hrun : ({ world := start } : Stage _ _).run (Operation.request service) turns = stage)
    {first second : StaffRequest} {outcome outcome' : Except AuthError Answer}
    (htasks : stage.tasks =
      [⟨first.operation, .done outcome, false⟩, ⟨second.operation, .done outcome', false⟩]) :
    Serially service start.directory first second outcome outcome' stage.world.directory ∨
      Serially service start.directory second first outcome' outcome stage.world.directory ∨
        Crossed start.directory first second outcome outcome' stage.world.directory ∨
          Crossed start.directory second first outcome' outcome stage.world.directory := by
  have hsound : stage.Sound (Operation.request service) := hrun ▸ .run turns start
  have hchronicle : Chronicle start stage.journal stage.world :=
    hrun ▸ Stage.chronicle_run turns start
  have hended : stage.Ended 0 1 first second outcome outcome' := by
    refine ⟨⟨false, by rw [htasks]; rfl⟩, ⟨false, by rw [htasks]; rfl⟩, Nat.zero_ne_one, ?_⟩
    intro deed hdeed
    have hlt := hsound.numbered deed hdeed
    rw [htasks] at hlt
    simp only [List.length_cons, List.length_nil] at hlt
    omega
  rcases hended.answers hsound hchronicle hcoherent with hanswers | hanswers
  · rcases hanswers.cases with h | h | h
    · exact .inl h
    · exact .inr (.inl h)
    · exact .inr (.inr (.inl h))
  · rcases hanswers.cases with h | h | h
    · exact .inr (.inl h)
    · exact .inl h
    · exact .inr (.inr (.inr h))

/-- A directory with a member of staff of the highest role, an administrator and a stylist. -/
def Directory.Table.plainStaff : Table :=
  { staff :=
      [⟨1, "root", "root@localhost", "first password", .superAdmin, true⟩,
        ⟨2, "alice", "alice@localhost", "second password", .admin, true⟩,
        ⟨3, "bob", "bob@localhost", "third password", .stylist, true⟩]
    lastId := 3 }

/-- The world in which nothing has happened to them. -/
def World.plainStaff : World := .fresh ⟨⟨0⟩, .zero⟩ .plainStaff

/-- A request of the administrator about the stylist. -/
def StaffRequest.byAdmin (change : StaffChange) : StaffRequest :=
  ⟨⟨2, .staff, "alice", none, .empty, 0, 0, ""⟩, 3, change⟩

/-- A request of the member of staff with the highest role about the stylist. -/
def StaffRequest.byRoot (change : StaffChange) : StaffRequest := ⟨.plain, 3, change⟩

/-- The administrator's request decides, then the other one is carried out, and then the
administrator's is written. -/
def Turn.plainOverlap (late early : StaffChange) : List (Turn Operation) :=
  .begin (StaffRequest.byAdmin late).operation :: List.replicate 6 (.proceed 0 .plain) ++
    .begin (StaffRequest.byRoot early).operation :: List.replicate 7 (.proceed 1 .plain) ++
      List.replicate 2 (.proceed 0 .plain)

/-- The stylist is made a manager while an administrator, who has decided before, bars the stylist
from signing in: it comes out as one after the other. -/
theorem administration_serializable_barred :
    ∃ stage, ({ world := .plainStaff } : Stage _ _).run (Operation.request .plain)
        (Turn.plainOverlap (.active false) (.role .manager)) = stage ∧
      stage.tasks = [⟨(StaffRequest.byAdmin (.active false)).operation, .done (.ok .done), false⟩,
        ⟨(StaffRequest.byRoot (.role .manager)).operation, .done (.ok .done), false⟩] ∧
      (Serially .plain World.plainStaff.directory (.byAdmin (.active false))
          (.byRoot (.role .manager)) (.ok .done) (.ok .done) stage.world.directory ∨
        Serially .plain World.plainStaff.directory (.byRoot (.role .manager))
          (.byAdmin (.active false)) (.ok .done) (.ok .done) stage.world.directory) := by
  have htasks : (({ world := .plainStaff } : Stage _ _).run (Operation.request .plain)
      (Turn.plainOverlap (.active false) (.role .manager))).tasks =
        [⟨(StaffRequest.byAdmin (.active false)).operation, .done (.ok .done), false⟩,
          ⟨(StaffRequest.byRoot (.role .manager)).operation, .done (.ok .done), false⟩] := rfl
  refine ⟨_, rfl, htasks, ?_⟩
  rcases administration_serializable (World.coherent_fresh _ _) rfl htasks with
    h | h | h | h
  · exact .inl h
  · exact .inr h
  -- requests of these kinds do not clash
  · cases h.clash.collides with
    | promotion _ hfirst => cases hfirst
    | withdrawal _ _ hfirst => cases hfirst
    | extension _ _ hfirst => cases hfirst
  · cases h.clash.collides with
    | promotion _ hfirst => cases hfirst
    | withdrawal _ _ hfirst => cases hfirst
    | extension _ _ hfirst => cases hfirst

/-- Requests that clash come out as in neither order: an administrator makes the stylist a manager,
by what was read before the stylist was made an administrator. One after the other, either the
administrator's request fails, or the stylist ends as an administrator. -/
theorem promotion_overwritten :
    World.plainStaff.Coherent (fun _ _ => True) ∧
      ∃ stage, ({ world := .plainStaff } : Stage _ _).run (Operation.request .plain)
          (Turn.plainOverlap (.role .manager) (.role .admin)) = stage ∧
        stage.tasks =
          [⟨(StaffRequest.byAdmin (.role .manager)).operation, .done (.ok .done), false⟩,
            ⟨(StaffRequest.byRoot (.role .admin)).operation, .done (.ok .done), false⟩] ∧
        ¬ Serially .plain World.plainStaff.directory (.byAdmin (.role .manager))
          (.byRoot (.role .admin)) (.ok .done) (.ok .done) stage.world.directory ∧
        ¬ Serially .plain World.plainStaff.directory (.byRoot (.role .admin))
          (.byAdmin (.role .manager)) (.ok .done) (.ok .done) stage.world.directory := by
  have hcoherent : World.plainStaff.Coherent (fun _ _ => True) := World.coherent_fresh _ _
  refine ⟨hcoherent, _, rfl, rfl, ?_, ?_⟩
  · intro h
    obtain ⟨mid, after, hfirst, hsecond, grants, hlast, -⟩ := h .plain .plain _ rfl hcoherent rfl
    obtain rfl := congrArg Prod.snd hfirst
    obtain rfl := congrArg Prod.snd hsecond
    -- the stylist is an administrator in this order, and a manager as it was
    have hstaff := congrArg
      (fun table : Directory.Table => (table.staff? 3).map Directory.Staff.role) hlast
    have hrole : some Role.manager = some Role.admin := hstaff
    cases hrole
  · intro h
    obtain ⟨mid, after, hfirst, hsecond, -⟩ := h .plain .plain _ rfl hcoherent rfl
    obtain rfl := congrArg Prod.snd hfirst
    have hfails : some (Except.error (AuthError.permissionDenied "ADMIN cannot manage ADMIN")) =
        some (Except.ok Answer.done) := congrArg Prod.fst hsecond
    cases hfails

end Gatehouse
