import RestSuite.Proofs.Call.Exchange
import RestSuite.Proofs.Suite.Steps

/-!
# The history agrees with the transport

A suite keeps the records of its calls, and the transport may keep a record of its own. Over any
number of documents both tell the same story.

* **`Suite.Delivers`** — what a suite has added to its history since a moment, and what passed
  between it and the transport.
* **`Suite.foldl_execute_exchanges`** — the agreement, over whole runs and for each call.
-/

namespace RestSuite

theorem Call.Transmits.reported {call : Call} {xs : List Exchange} (h : call.Transmits xs) :
    call.reported.Transmits xs := by
  obtain ⟨state, hreported⟩ := call.reported_eq
  rw [hreported]
  cases h with
  | nothing hsent hresponse => exact .nothing hsent hresponse
  | request hsent hrequest hresponse => exact .request hsent hrequest hresponse

theorem Call.transmits_rejected (script : String) (e : CallError) :
    (Call.rejected script e).Transmits [] :=
  .nothing rfl rfl

namespace Suite

variable {σ : Type} {s t u : Suite σ} {node : Json}

/-! ## Histories and exchanges -/

/-- From one moment of a suite to a later one: its calls are run in the same way, the calls that were
added to the history say what they sent, and that is what passed to the transport. -/
inductive Delivers (s t : Suite σ) : Prop where
  | intro {calls : List Call} {deliveries : List (List Exchange)}
      (hcaller : t.caller = s.caller)
      (hhistory : t.history = s.history ++ calls)
      (htransmits : List.Forall₂ Call.Transmits calls deliveries)
      (hexchanges : s.caller.Exchanges s.world deliveries.flatten t.world)

/-- A change that enters no call and leaves the transport alone. -/
theorem Delivers.quiet (hcaller : t.caller = s.caller) (hhistory : t.history = s.history)
    (hexchanges : s.caller.Exchanges s.world [] t.world) : Delivers s t := by
  have hnone : t.history = s.history ++ [] := by rw [hhistory, List.append_nil]
  exact .intro hcaller hnone .nil hexchanges

theorem Delivers.trans (h : Delivers s t) (h' : Delivers t u) : Delivers s u := by
  obtain ⟨hcaller, hhistory, htransmits, hexchanges⟩ := h
  obtain ⟨hcaller', hhistory', htransmits', hexchanges'⟩ := h'
  rw [hcaller] at hexchanges'
  have hboth := hexchanges.append hexchanges'
  rw [← List.flatten_append] at hboth
  refine .intro (hcaller'.trans hcaller) ?_ (List.rel_append htransmits htransmits') hboth
  rw [hhistory', hhistory, List.append_assoc]

/-- A call is entered, whose record says what was sent. -/
theorem Delivers.call {call : Call} {xs : List Exchange} (hcaller : t.caller = s.caller)
    (hhistory : t.history = s.history ++ [call.reported]) (htransmits : call.Transmits xs)
    (hexchanges : s.caller.Exchanges s.world xs t.world) : Delivers s t := by
  refine .intro hcaller hhistory (.cons htransmits.reported .nil) ?_
  rw [List.flatten_cons, List.flatten_nil, List.append_nil]
  exact hexchanges

/-! ## Steps -/

theorem delivers_poll (s : Suite σ) : Delivers s s.poll :=
  .quiet rfl rfl (.poll s.caller s.world)

/-- A script that is run delivers what its call sends. -/
theorem delivers_entering (s : Suite σ) (script : Script) (resolved : ResolvedScript) :
    Delivers s (s.entering script resolved) := by
  obtain ⟨xs, htransmits, hexchanges⟩ :=
    s.caller.run_exchanges resolved (s.noting script).world
  -- notices before and the report behind do not touch the transport
  have hnoting : s.caller.Exchanges s.world [] (s.noting script).world := .of_eq rfl rfl
  have hreport : s.caller.Exchanges (s.outcome script resolved).2 []
    (s.entering script resolved).world := .of_eq rfl rfl
  have hrun := (hnoting.append hexchanges).append hreport
  rw [List.nil_append, List.append_nil] at hrun
  exact .call rfl rfl htransmits hrun

/-- **Taking a node delivers what its call sends.** -/
theorem Taken.delivers {r : Suite σ × Bool} (h : s.Taken node r) : Delivers s r.1 := by
  cases h with
  | malformed _ => exact .call rfl rfl (Call.transmits_rejected _ _) (.of_eq rfl rfl)
  | unresolved _ _ => exact .call rfl rfl (Call.transmits_rejected _ _) (.of_eq rfl rfl)
  | registered _ _ _ => exact .quiet rfl rfl (.of_eq rfl rfl)
  | wentOn _ _ _ _ => exact delivers_entering s _ _
  | endedEarly _ _ _ _ => exact (delivers_entering s _ _).trans (.quiet rfl rfl (.of_eq rfl rfl))

/-! ## Runs -/

theorem delivers_execute (s : Suite σ) (document : Json) : Delivers s (s.execute document) :=
  execute_induction (P := Delivers s) (fun t h => h.trans t.delivers_poll)
    (fun t node h => h.trans (t.take_taken node).delivers)
    (fun _ h => h.trans (.quiet rfl rfl (.of_eq rfl rfl))) document (.quiet rfl rfl (.of_eq rfl rfl))

/-- Documents are run one after the other. -/
theorem delivers_foldl_execute (s : Suite σ) (documents : List Json) :
    Delivers s (documents.foldl execute s) := by
  induction documents generalizing s with
  | nil => exact .quiet rfl rfl (.of_eq rfl rfl)
  | cons document rest ih => exact (s.delivers_execute document).trans (ih (s.execute document))

/-- **The history agrees with the transport.** Whatever documents are run one after the other, what
passed to the transport is one exchange for each call that says it was sent, in order, and nothing
for any other call: the request is that of the call, and the response is there exactly if there was
an answer, as it was. Every record that the host keeps holds these exchanges, so its requests are
those of the calls that were sent. The same goes for every single call that the suite runs, and no
call of a script that is withheld reaches the transport. -/
theorem foldl_execute_exchanges (s : Suite σ) (documents : List Json) :
    (∃ calls deliveries,
      (documents.foldl execute s).history = s.history ++ calls
      ∧ List.Forall₂ Call.Transmits calls deliveries
      ∧ s.caller.Exchanges s.world deliveries.flatten (documents.foldl execute s).world
      ∧ ∀ record, s.caller.Recorder record →
          (record (documents.foldl execute s).world.host).map (fun x => some x.request) =
            (record s.world.host).map (fun x => some x.request) ++
              (calls.filter Call.sent).map Call.request)
    ∧ (∀ script w, ∃ delivery,
        (s.caller.run script w).1.Transmits delivery
        ∧ s.caller.Exchanges w delivery (s.caller.run script w).2)
    ∧ (∀ script w, s.caller.Withheld script w →
        (s.caller.run script w).1.Transmits []
        ∧ s.caller.Exchanges w [] (s.caller.run script w).2) := by
  refine ⟨?_, s.caller.run_exchanges, fun _ _ hwithheld => hwithheld.sends_nothing⟩
  obtain ⟨-, hhistory, htransmits, hexchanges⟩ := s.delivers_foldl_execute documents
  refine ⟨_, _, hhistory, htransmits, hexchanges, ?_⟩
  intro record hrecord
  rw [hexchanges.recorded record hrecord, List.map_append, requests_of_transmits htransmits]

end Suite

end RestSuite
