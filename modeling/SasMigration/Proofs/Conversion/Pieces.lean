import SasMigration.Proofs.Conversion.Assembly
import SasMigration.Proofs.Pattern.Scan

namespace SasMigration

namespace Reply

/-- What a reply is worth: its text without blanks around it, or nothing. -/
def answer : Reply → Text
  | content (.text t) => Text.strip t
  | _ => []

theorem answer_of_text_ok {reply : Reply} {t : Text} (h : reply.text = .ok t) :
    reply.answer = t := by
  cases reply with
  | failing reason => cases h
  | content v =>
    cases v with
    | text t => exact Except.ok.inj h
    | _ => cases h

theorem answer_of_text_error {reply : Reply} {reason : Text} (h : reply.text = .error reason) :
    reply.answer = [] := by
  cases reply with
  | failing reason => rfl
  | content v =>
    cases v with
    | text t => cases h
    | _ => rfl

/-- The reply to a request, by its number; there are empty ones after the last. -/
def nth (replies : List Reply) (i : Nat) : Reply := replies.getD i (.content (.text []))

def answers (replies : List Reply) (n : Nat) : List Text :=
  (List.range n).map fun i ↦ (nth replies i).answer

variable {replies : List Reply}

theorem nth_succ (i : Nat) : nth replies (i + 1) = nth replies.tail i := by
  cases replies with
  | nil => rfl
  | cons reply replies => rfl

theorem answers_succ (n : Nat) :
    answers replies (n + 1) = (nth replies 0).answer :: answers replies.tail n := by
  rw [answers, List.range_succ_eq_map, List.map_cons, List.map_map]
  exact congrArg _ (List.map_congr_left fun i _ ↦ congrArg answer (nth_succ i))

theorem length_answers (n : Nat) : (answers replies n).length = n := by simp [answers]

theorem answers_add (m n : Nat) :
    answers replies (m + n) = answers replies m ++ answers (replies.drop m) n := by
  induction m generalizing replies with
  | zero => simp [answers]
  | succ m ih =>
    rw [Nat.add_right_comm, answers_succ, ih, answers_succ, List.cons_append, List.drop_tail]

theorem getElem?_answers {n i : Nat} (h : i < n) :
    (answers replies n)[i]? = some (nth replies i).answer := by
  simp [answers, h]

end Reply

namespace Conversion

open Pattern Reply

variable {client : CompletionClient} {x : Exchange} {chunk : Text}

def pieces (client : CompletionClient) (named : Fields) (v : Value) :
    Converting (List (Text × Text) × List Text) := do
  let functions ← macros client named
  let blocks ← blocksIn client v
  return (functions, blocks)

def request (client : CompletionClient) (instruction : Instruction) (user : Text) :
    CompletionRequest :=
  { deployment := client.deployment, system := instruction.text, user
    maxTokens := ConversionSettings.maxTokens, temperature := ConversionSettings.temperature }

def macroRequest (client : CompletionClient) (m : Text × Value) : CompletionRequest :=
  request client .macroBody (macroQuestion m.1 m.2)

def blockRequest (client : CompletionClient) (chunk : Text) : CompletionRequest :=
  request client (blockInstruction chunk) (blockQuestion chunk)

/-! One run -/

theorem exists_run_instruct (client : CompletionClient) (instruction : Instruction) (user : Text)
    (x : Exchange) :
    ∃ printed, StateT.run (client.instruct instruction user) x =
      ((nth x.replies 0).answer,
        ⟨x.replies.tail, x.requests ++ [request client instruction user], printed⟩) := by
  have hnext : nth x.replies 0 = x.next := by
    cases hreplies : x.replies <;> simp [nth, Exchange.next, hreplies]
  rw [hnext]
  cases htext : x.next.text with
  | ok t =>
    rw [answer_of_text_ok htext, CompletionClient.instruct, CompletionClient.ask]
    simp only [StateT.run_bind, StateT.run_get, pure_bind, htext]
    exact ⟨_, rfl⟩
  | error reason =>
    rw [answer_of_text_error htext, CompletionClient.instruct, CompletionClient.ask]
    simp only [StateT.run_bind, StateT.run_get, pure_bind, htext]
    exact ⟨_, rfl⟩

theorem exists_run_macros (client : CompletionClient) (named : Fields) (x : Exchange) :
    ∃ printed, StateT.run (macros client named) x =
      ((named.map Prod.fst).zip (answers x.replies named.length),
        ⟨x.replies.drop named.length, x.requests ++ named.map (macroRequest client), printed⟩) := by
  induction named generalizing x with
  | nil =>
    rw [List.map_nil, List.map_nil, List.append_nil]
    exact ⟨x.printed, rfl⟩
  | cons m named ih =>
    obtain ⟨printed, hfirst⟩ := exists_run_instruct client .macroBody (macroQuestion m.1 m.2) x
    obtain ⟨printed', hmore⟩ := ih
      ⟨x.replies.tail, x.requests ++ [macroRequest client m], printed⟩
    have hrun : StateT.run (macros client (m :: named)) x =
        let asked := StateT.run (client.instruct .macroBody (macroQuestion m.1 m.2)) x
        let more := StateT.run (macros client named) asked.2
        ((m.1, asked.1) :: more.1, more.2) := rfl
    rw [hfirst] at hrun
    dsimp only at hrun
    rw [← macroRequest, hmore] at hrun
    refine ⟨printed', ?_⟩
    rw [hrun, List.length_cons, answers_succ, List.map_cons, List.map_cons, List.zip_cons_cons,
      List.drop_tail, List.append_assoc]
    rfl

theorem exists_run_blocks (client : CompletionClient) (chunks : List Text) (x : Exchange) :
    ∃ printed, StateT.run (ExceptT.run (blocks client (chunks.map .text))) x =
      (.ok (answers x.replies chunks.length),
        ⟨x.replies.drop chunks.length, x.requests ++ chunks.map (blockRequest client),
          printed⟩) := by
  induction chunks generalizing x with
  | nil =>
    rw [List.map_nil, List.map_nil, List.append_nil]
    exact ⟨x.printed, rfl⟩
  | cons chunk chunks ih =>
    obtain ⟨printed, hfirst⟩ :=
      exists_run_instruct client (blockInstruction chunk) (blockQuestion chunk) x
    obtain ⟨printed', hmore⟩ := ih
      ⟨x.replies.tail, x.requests ++ [blockRequest client chunk], printed⟩
    have hblock : StateT.run (ExceptT.run (block client (.text chunk))) x =
        (.ok (nth x.replies 0).answer,
          ⟨x.replies.tail, x.requests ++ [blockRequest client chunk], printed⟩) :=
      Converting.run_lift_of_run hfirst
    refine ⟨printed', ?_⟩
    rw [List.map_cons, blocks, Converting.run_bind_of_ok hblock, Converting.run_bind_of_ok hmore,
      List.length_cons, answers_succ, List.map_cons, List.drop_tail, List.append_assoc]
    rfl

theorem exists_run_pieces (client : CompletionClient) (named : Fields) (chunks : List Text)
    (replies : List Reply) :
    ∃ exchange : Exchange,
      StateT.run (ExceptT.run (pieces client named (.texts chunks))) (.start replies) =
        (.ok ((named.map Prod.fst).zip (answers replies named.length),
          answers (replies.drop named.length) chunks.length), exchange) ∧
      exchange.requests = named.map (macroRequest client) ++ chunks.map (blockRequest client) := by
  obtain ⟨printed, hmacros⟩ := exists_run_macros client named (.start replies)
  obtain ⟨printed', hblocks⟩ := exists_run_blocks client chunks
    ⟨replies.drop named.length, named.map (macroRequest client), printed⟩
  let last : Exchange := ⟨(replies.drop named.length).drop chunks.length,
    named.map (macroRequest client) ++ chunks.map (blockRequest client), printed'⟩
  have hblocksIn : StateT.run (ExceptT.run (blocksIn client (.texts chunks)))
      ⟨replies.drop named.length, named.map (macroRequest client), printed⟩ =
        (.ok (answers (replies.drop named.length) chunks.length), last) := hblocks
  refine ⟨last, ?_, rfl⟩
  rw [pieces, Converting.run_bind_of_ok (Converting.run_lift_of_run hmacros)]
  exact Converting.run_bind_of_ok hblocksIn

/-! Blocks with SQL -/

/-- Somewhere in a block the words `proc` and `sql` follow each other, in any letter case. -/
def NamesSql (block : Text) : Prop :=
  ∃ before proc gap sql after : Text, block = before ++ (proc ++ (gap ++ (sql ++ after))) ∧
    List.Forall₂ (fun a b ↦ Text.sameLetter a b) "proc" proc ∧ Text.IsGap gap ∧
    List.Forall₂ (fun a b ↦ Text.sameLetter a b) "sql" sql

theorem consumes_sqlProcedure : sqlProcedure.Consumes := by
  have hproc : ("proc" : Text) ≠ [] := by decide
  have hconsumes : (inOrder ([] ++ keyword "proc" :: [blanks1, keyword "sql"])).Consumes :=
    consumes_keyword hproc
  exact hconsumes

theorem isSql_iff : isSql chunk ↔ NamesSql chunk := by
  rw [isSql, Option.isSome_iff_exists]
  constructor
  · rintro ⟨m, hm⟩
    obtain ⟨before, rest, nonEmpty, hchunk, hat⟩ := matchedFrom_of_searchFrom hm
    obtain ⟨e, he, -⟩ := matchAt_eq_some hat
    rw [sqlProcedure, mem_ends_inOrder_cons] at he
    obtain ⟨t₁, h₁, he⟩ := he
    obtain ⟨t₂, h₂, h₃⟩ := mem_ends_inOrder_cons.mp he
    obtain ⟨proc, hproc, hsame, -⟩ := exists_of_mem_ends_letters h₁
    obtain ⟨gap, hgap, hblank, -⟩ := exists_of_mem_ends_blanks1 h₂
    obtain ⟨sql, hsql, hsame', -⟩ := exists_of_mem_ends_letters h₃
    refine ⟨before, proc, gap, sql, e.after, ?_, hsame, hblank, hsame'⟩
    rw [hchunk, ← hsql.after_eq, ← hgap.after_eq, ← hproc.after_eq]
  · rintro ⟨before, proc, gap, sql, after, rfl, hsame, hblank, hsame'⟩
    have hsql : (inOrder [keyword "sql"]).Accepts sql := accepts_letters hsame'
    have hproc : (keyword "proc").Accepts proc := accepts_letters hsame
    have hwhole : sqlProcedure.Accepts (proc ++ (gap ++ sql)) :=
      hproc.inOrder_cons ((accepts_blanks1 hblank).inOrder_cons hsql)
    obtain ⟨m, hat⟩ := hwhole.exists_matchAt before after
    rw [← between_eq] at hat
    obtain ⟨m', hm', -⟩ := consumes_sqlProcedure.exists_searchFrom false hat
    simp only [List.append_assoc] at hm'
    exact ⟨m', hm'⟩

theorem blockInstruction_iff (chunk : Text) :
    (blockInstruction chunk = .sqlBlock ↔ NamesSql chunk) ∧
      (blockInstruction chunk = .mainBlock ↔ ¬ NamesSql chunk) := by
  rw [← isSql_iff, blockInstruction]
  cases isSql chunk <;> simp

/-! Two runs -/

/-- A run over all pieces: it ends, makes one request for each macro and then one for each block,
and gives a function for each macro, under its name, and a block for each chunk. -/
structure PieceRun (client : CompletionClient) (named : Fields) (chunks : List Text)
    (replies : List Reply) where
  functions : List (Text × Text)
  blocks : List Text
  exchange : Exchange
  run_eq : StateT.run (ExceptT.run (pieces client named (.texts chunks))) (.start replies) =
    (.ok (functions, blocks), exchange)
  requests_eq : exchange.requests =
    named.map (macroRequest client) ++ chunks.map (blockRequest client)
  names_eq : functions.map Prod.fst = named.map Prod.fst
  length_eq : blocks.length = chunks.length

namespace PieceRun

variable {named : Fields} {chunks : List Text} {replies : List Reply}

def outputs (r : PieceRun client named chunks replies) : List Text :=
  r.functions.map Prod.snd ++ r.blocks

theorem exists_outputs_eq (client : CompletionClient) (named : Fields) (chunks : List Text)
    (replies : List Reply) :
    ∃ r : PieceRun client named chunks replies,
      r.outputs = answers replies (named.length + chunks.length) := by
  obtain ⟨exchange, hrun, hrequests⟩ := exists_run_pieces client named chunks replies
  have hlength : (named.map Prod.fst).length = (answers replies named.length).length := by
    rw [List.length_map, length_answers]
  refine ⟨⟨_, _, exchange, hrun, hrequests, ?_, length_answers _⟩, ?_⟩
  · exact List.map_fst_zip hlength.le
  · rw [answers_add, outputs, List.map_snd_zip hlength.ge]

end PieceRun

/-- Two reply scripts that differ in the reply to one request only: the runs with them both end and
make the same requests, with the instruction for SQL for just those blocks that name it. What they
make of all other pieces is the same, and of that one each makes what its own reply is worth. -/
theorem exists_runs_agree_except (client : CompletionClient) (named : Fields) (chunks : List Text)
    (k : Nat) {first second : List Reply} (h : ∀ i, i ≠ k → nth first i = nth second i) :
    ∃ (r : PieceRun client named chunks first) (r' : PieceRun client named chunks second),
      r.exchange.requests = r'.exchange.requests ∧
      (∀ chunk, (blockInstruction chunk = .sqlBlock ↔ NamesSql chunk) ∧
        (blockInstruction chunk = .mainBlock ↔ ¬ NamesSql chunk)) ∧
      (∀ i, i ≠ k → r.outputs[i]? = r'.outputs[i]?) ∧
      (k < named.length + chunks.length →
        r.outputs[k]? = some (nth first k).answer ∧
        r'.outputs[k]? = some (nth second k).answer) := by
  obtain ⟨r, hr⟩ := PieceRun.exists_outputs_eq client named chunks first
  obtain ⟨r', hr'⟩ := PieceRun.exists_outputs_eq client named chunks second
  refine ⟨r, r', r.requests_eq.trans r'.requests_eq.symm, blockInstruction_iff, fun i hi ↦ ?_,
    fun hk ↦ ⟨?_, ?_⟩⟩
  · rw [hr, hr']
    by_cases hlt : i < named.length + chunks.length
    · rw [getElem?_answers hlt, getElem?_answers hlt, h i hi]
    · rw [List.getElem?_eq_none (by rw [length_answers]; omega),
        List.getElem?_eq_none (by rw [length_answers]; omega)]
  · rw [hr, getElem?_answers hk]
  · rw [hr', getElem?_answers hk]

/-- A request for a block fails in one run and is answered in the other. -/
theorem exists_runs_agree_except_failing :
    let named : Fields := [("m", .text "x")]
    let chunks : List Text := ["proc sql;", "run;"]
    let first : List Reply := [.content (.text "a"), .failing "down", .content (.text "c")]
    let second : List Reply := [.content (.text "a"), .content (.text " b "), .content (.text "c")]
    (∀ i, i ≠ 1 → nth first i = nth second i) ∧
    ∃ (r : PieceRun .standard named chunks first) (r' : PieceRun .standard named chunks second),
      (∀ i, i ≠ 1 → r.outputs[i]? = r'.outputs[i]?) ∧ r.outputs[1]? = some [] ∧
        r'.outputs[1]? = some ['b'] := by
  intro named chunks first second
  have h : ∀ i, i ≠ 1 → nth first i = nth second i := by
    intro i hi
    cases i with
    | zero => rfl
    | succ i =>
      cases i with
      | zero => exact absurd rfl hi
      | succ i => rfl
  obtain ⟨r, r', -, -, hother, hown⟩ := exists_runs_agree_except .standard named chunks 1 h
  obtain ⟨hfailed, hanswered⟩ := hown (by decide)
  exact ⟨h, r, r', hother, hfailed, hanswered⟩

end Conversion

end SasMigration
