import EidolonAdmin.Foundation.JsonText

/-! # The commissioning session over TLS

`receive_json` collects what TLS decrypts until a newline and reads the line as a JSON object;
`run_commissioning_tls_session` answers one object after the other until the link closes. What
the session makes of a stream depends on its lines and not on how TLS hands it out, and it closes
without an exception unless `json.loads`, the encoder or TLS raises one that nobody expects.
-/

namespace EidolonAdmin.Bootstrap.TlsSession

open Foundation Foundation.JsonText

def maxApplicationMessage : Nat := 64 * 1024

def newline : Byte := Text.byte 10

abbrev Members := List (Text × Document)

inductive Failure where
  | loads (error : LoadsError)
  | dumps
  | encode
  | tls
deriving DecidableEq, Repr

inductive End where
  | waiting
  | returned
  | raised (failure : Failure)
deriving DecidableEq, Repr

/-- What one turn of the loop in `receive_json` gets: bytes that TLS decrypted, more bytes of the
link for TLS, or the end of either. -/
inductive TlsRead where
  | chunk (bytes : List Byte)
  | wantRead
  | linkClosed
  | zeroReturn
  | sslError
deriving DecidableEq, Repr

/-- `plaintext.find(b"\n")`, with what stands before and after it. -/
def cutLine : List Byte → Option (List Byte × List Byte)
  | [] => none
  | b :: rest =>
    if b = newline then some ([], rest) else (cutLine rest).map fun cut => (b :: cut.1, cut.2)

inductive Verdict where
  | object (members : Members)
  | closed
  | raised (failure : Failure)

def judge (room : Nat) (raw : List Byte) : Verdict :=
  if raw = [] ∨ maxApplicationMessage < raw.length then .closed
  else
    match loads room raw with
    | .error .jsonDecode => .closed
    | .error error => .raised (.loads error)
    | .ok (.obj members) => .object members
    | .ok _ => .closed

/-- What `receive_json` returns or raises, with the bytes and the reads that are left. -/
inductive Received where
  | object (members : Members) (plaintext : List Byte) (reads : List TlsRead)
  | stopped (ending : End)

def Verdict.received (verdict : Verdict) (plaintext : List Byte) (reads : List TlsRead) : Received :=
  match verdict with
  | .object members => .object members plaintext reads
  | .closed => .stopped .returned
  | .raised failure => .stopped (.raised failure)

def receiveJson (room : Nat) (plaintext : List Byte) (reads : List TlsRead) : Received :=
  match cutLine plaintext with
  | some (raw, rest) => (judge room raw).received rest reads
  | none =>
    if maxApplicationMessage < plaintext.length then .stopped .returned
    else
      match reads with
      | [] => .stopped .waiting
      | .chunk bytes :: reads =>
        if bytes = [] then .stopped .returned else receiveJson room (plaintext ++ bytes) reads
      | .wantRead :: reads => receiveJson room plaintext reads
      | .linkClosed :: _ | .zeroReturn :: _ => .stopped .returned
      | .sslError :: _ => .stopped (.raised .tls)

def TlsRead.weight : TlsRead → Nat
  | .chunk bytes => bytes.length + 1
  | _ => 1

def weight (plaintext : List Byte) (reads : List TlsRead) : Nat :=
  plaintext.length + (reads.map TlsRead.weight).sum

theorem cutLine_eq_some {plaintext raw rest : List Byte} (h : cutLine plaintext = some (raw, rest)) :
    plaintext = raw ++ newline :: rest ∧ newline ∉ raw := by
  induction plaintext generalizing raw with
  | nil => cases h
  | cons b plaintext ih =>
    rw [cutLine] at h
    split_ifs at h with hNewline
    · cases h
      exact ⟨congrArg (· :: _) hNewline, List.not_mem_nil⟩
    · obtain ⟨cut, hCut, hEq⟩ := Option.map_eq_some_iff.mp h
      cases hEq
      obtain ⟨hSplit, hRaw⟩ := ih hCut
      exact ⟨congrArg (b :: ·) hSplit, List.not_mem_cons_of_ne_of_not_mem (Ne.symm hNewline) hRaw⟩

theorem cutLine_eq_none {plaintext : List Byte} : cutLine plaintext = none ↔ newline ∉ plaintext := by
  induction plaintext with
  | nil => simp [cutLine]
  | cons b plaintext ih =>
    rw [cutLine, List.mem_cons, not_or, ← ih]
    split_ifs with hNewline
    · simp [hNewline]
    · simp [Ne.symm hNewline]

theorem receiveJson_of_some {room : Nat} {plaintext raw rest : List Byte}
    (h : cutLine plaintext = some (raw, rest)) (reads : List TlsRead) :
    receiveJson room plaintext reads = (judge room raw).received rest reads := by
  rw [receiveJson.eq_def, h]

theorem received_eq_object {verdict : Verdict} {plaintext left : List Byte} {reads later : List TlsRead}
    {members : Members} (h : verdict.received plaintext reads = .object members left later) :
    verdict = .object members ∧ left = plaintext ∧ later = reads := by
  cases verdict with
  | object members =>
    cases h
    exact ⟨rfl, rfl, rfl⟩
  | closed => cases h
  | raised failure => cases h

theorem weight_lt_of_receiveJson {room : Nat} {plaintext left : List Byte} {reads later : List TlsRead}
    {members : Members} (h : receiveJson room plaintext reads = .object members left later) :
    weight left later < weight plaintext reads := by
  induction reads generalizing plaintext with
  | nil =>
    cases hCut : cutLine plaintext with
    | some cut =>
      rw [receiveJson_of_some hCut] at h
      obtain ⟨-, rfl, rfl⟩ := received_eq_object h
      rw [(cutLine_eq_some hCut).1]
      simp only [weight, List.length_append, List.length_cons]
      omega
    | none =>
      rw [receiveJson.eq_def, hCut] at h
      dsimp only at h
      split_ifs at h
  | cons read reads ih =>
    cases hCut : cutLine plaintext with
    | some cut =>
      rw [receiveJson_of_some hCut] at h
      obtain ⟨-, rfl, rfl⟩ := received_eq_object h
      rw [(cutLine_eq_some hCut).1]
      simp only [weight, List.length_append, List.length_cons]
      omega
    | none =>
      rw [receiveJson.eq_def, hCut] at h
      dsimp only at h
      split_ifs at h
      cases read with
      | chunk bytes =>
        dsimp only at h
        split_ifs at h
        have hRest := ih h
        simp only [weight, List.length_append, List.map_cons, List.sum_cons, TlsRead.weight] at hRest ⊢
        omega
      | wantRead =>
        have hRest := ih h
        simp only [weight, List.map_cons, List.sum_cons, TlsRead.weight] at hRest ⊢
        omega
      | linkClosed => cases h
      | zeroReturn => cases h
      | sslError => cases h

/-- One object after the other, each given to `each`, until something stops the session. -/
def serve {σ : Type} (room : Nat) (each : σ → Members → Except End σ) (plaintext : List Byte)
    (reads : List TlsRead) (s : σ) : σ × End :=
  match _h : receiveJson room plaintext reads with
  | .stopped ending => (s, ending)
  | .object members left later =>
    match each s members with
    | .error ending => (s, ending)
    | .ok s' => serve room each left later s'
termination_by weight plaintext reads
decreasing_by exact weight_lt_of_receiveJson (by assumption)

def receiveAll (room : Nat) (reads : List TlsRead) : List Members × End :=
  serve room (fun objects members => .ok (objects ++ [members])) [] reads []

/-! ## The session -/

/-- What the session works with: the protocol that answers, the TLS layer with the link under it,
and the room that the encoder has. -/
structure Environment (σ : Type) where
  handshake : σ → Except End σ
  handle : σ → Members → Document × σ
  send : σ → List Byte → Except End σ
  close : σ → σ
  dumpRoom : Nat

variable {σ : Type}

def sendJson (env : Environment σ) (s : σ) (value : Document) : Except End σ :=
  match dumps env.dumpRoom value with
  | none => .error (.raised .dumps)
  | some text =>
    match Text.encodeUtf8 text with
    | none => .error (.raised .encode)
    | some payload =>
      if maxApplicationMessage < (payload ++ [newline]).length then .error .returned
      else env.send s (payload ++ [newline])

def answer (env : Environment σ) (s : σ) (request : Members) : Except End σ :=
  sendJson env (env.handle s request).2 (env.handle s request).1

structure Outcome (σ : Type) where
  state : σ
  ending : End
  closed : Bool

def converse (room : Nat) (env : Environment σ) (reads : List TlsRead) (s : σ) : σ × End :=
  match env.handshake s with
  | .error ending => (s, ending)
  | .ok s => serve room (answer env) [] reads s

/-- The `finally` clause. -/
def finish (env : Environment σ) (last : σ × End) : Outcome σ :=
  match last with
  | (s, .waiting) => ⟨s, .waiting, false⟩
  | (s, ending) => ⟨env.close s, ending, true⟩

def runCommissioningTlsSession (room : Nat) (env : Environment σ) (reads : List TlsRead) (s : σ) : Outcome σ :=
  finish env (converse room env reads s)

/-! ## The lines of a stream -/

def bytesOf : List TlsRead → List Byte
  | [] => []
  | .chunk bytes :: reads => if bytes = [] then [] else bytes ++ bytesOf reads
  | .wantRead :: reads => bytesOf reads
  | _ => []

def endingOf : List TlsRead → End
  | [] => .waiting
  | .chunk bytes :: reads => if bytes = [] then .returned else endingOf reads
  | .wantRead :: reads => endingOf reads
  | .linkClosed :: _ | .zeroReturn :: _ => .returned
  | .sslError :: _ => .raised .tls

/-- The lines that a newline ends, and what follows the last of them. -/
def linesOf : List Byte → List (List Byte) × List Byte
  | [] => ([], [])
  | b :: rest =>
    if b = newline then ([] :: (linesOf rest).1, (linesOf rest).2)
    else
      match (linesOf rest).1 with
      | [] => ([], b :: (linesOf rest).2)
      | line :: lines => ((b :: line) :: lines, (linesOf rest).2)

def serveLines (room : Nat) (each : σ → Members → Except End σ) (tail : List Byte) (ending : End) :
    List (List Byte) → σ → σ × End
  | [], s => (s, if maxApplicationMessage < tail.length then .returned else ending)
  | raw :: lines, s =>
    match judge room raw with
    | .closed => (s, .returned)
    | .raised failure => (s, .raised failure)
    | .object members =>
      match each s members with
      | .error ending => (s, ending)
      | .ok s' => serveLines room each tail ending lines s'

theorem linesOf_append {plaintext : List Byte} (h : newline ∉ plaintext) (bytes : List Byte) :
    linesOf (plaintext ++ bytes) = ((linesOf bytes).1.modifyHead fun line => plaintext ++ line,
      if (linesOf bytes).1 = [] then plaintext ++ (linesOf bytes).2 else (linesOf bytes).2) := by
  induction plaintext with
  | nil =>
    rw [List.nil_append]
    cases hLines : (linesOf bytes).1 with
    | nil => exact Prod.ext hLines rfl
    | cons line lines => exact Prod.ext hLines rfl
  | cons b plaintext ih =>
    obtain ⟨hByte, hRest⟩ := List.ne_and_not_mem_of_not_mem_cons h
    rw [List.cons_append, linesOf, if_neg (Ne.symm hByte), ih hRest]
    cases (linesOf bytes).1 with
    | nil => rfl
    | cons line lines => rfl

theorem linesOf_line {raw : List Byte} (h : newline ∉ raw) (rest : List Byte) :
    linesOf (raw ++ newline :: rest) = (raw :: (linesOf rest).1, (linesOf rest).2) := by
  have hLine : linesOf (newline :: rest) = ([] :: (linesOf rest).1, (linesOf rest).2) := by
    rw [linesOf, if_pos rfl]
  rw [linesOf_append h, hLine, if_neg (List.cons_ne_nil _ _), List.modifyHead_cons, List.append_nil]

theorem judge_of_long {room : Nat} {raw : List Byte} (h : maxApplicationMessage < raw.length) :
    judge room raw = .closed := by
  rw [judge, if_pos (.inr h)]

inductive Next (room : Nat) (plaintext : List Byte) (reads : List TlsRead) : Received → Prop where
  | object {raw left : List Byte} {members : Members} {later : List TlsRead} :
      linesOf (plaintext ++ bytesOf reads) =
        (raw :: (linesOf (left ++ bytesOf later)).1, (linesOf (left ++ bytesOf later)).2) →
      endingOf later = endingOf reads → judge room raw = .object members →
      Next room plaintext reads (.object members left later)
  | closed {raw : List Byte} {lines : List (List Byte)} {tail : List Byte} :
      linesOf (plaintext ++ bytesOf reads) = (raw :: lines, tail) → judge room raw = .closed →
      Next room plaintext reads (.stopped .returned)
  | raised {raw : List Byte} {lines : List (List Byte)} {tail : List Byte} {failure : Failure} :
      linesOf (plaintext ++ bytesOf reads) = (raw :: lines, tail) → judge room raw = .raised failure →
      Next room plaintext reads (.stopped (.raised failure))
  | tooLong {tail : List Byte} : linesOf (plaintext ++ bytesOf reads) = ([], tail) →
      maxApplicationMessage < tail.length → Next room plaintext reads (.stopped .returned)
  | ending {tail : List Byte} : linesOf (plaintext ++ bytesOf reads) = ([], tail) →
      ¬ maxApplicationMessage < tail.length → Next room plaintext reads (.stopped (endingOf reads))

theorem next_of_cut {room : Nat} {plaintext raw rest : List Byte} (h : cutLine plaintext = some (raw, rest))
    (reads : List TlsRead) : Next room plaintext reads (receiveJson room plaintext reads) := by
  obtain ⟨hSplit, hRaw⟩ := cutLine_eq_some h
  have hLines : linesOf (plaintext ++ bytesOf reads) =
      (raw :: (linesOf (rest ++ bytesOf reads)).1, (linesOf (rest ++ bytesOf reads)).2) := by
    rw [hSplit, List.append_assoc, List.cons_append, linesOf_line hRaw]
  rw [receiveJson_of_some h]
  cases hJudge : judge room raw with
  | object members => exact .object hLines rfl hJudge
  | closed => exact .closed hLines hJudge
  | raised failure => exact .raised hLines hJudge

theorem next_of_long {room : Nat} {plaintext : List Byte} (hNone : newline ∉ plaintext)
    (h : maxApplicationMessage < plaintext.length) (reads : List TlsRead) :
    Next room plaintext reads (.stopped .returned) := by
  have hLines := linesOf_append hNone (bytesOf reads)
  cases hFirst : (linesOf (bytesOf reads)).1 with
  | nil =>
    rw [hFirst, if_pos rfl] at hLines
    exact .tooLong hLines (by rw [List.length_append]; omega)
  | cons line lines =>
    rw [hFirst, List.modifyHead_cons] at hLines
    exact .closed hLines (judge_of_long (by rw [List.length_append]; omega))

theorem next_of_ended {room : Nat} {plaintext : List Byte} {reads : List TlsRead} {ending : End}
    (hNone : newline ∉ plaintext) (hLong : ¬ maxApplicationMessage < plaintext.length)
    (hBytes : bytesOf reads = []) (hEnding : endingOf reads = ending) :
    Next room plaintext reads (.stopped ending) := by
  have hLines : linesOf (plaintext ++ bytesOf reads) = ([], plaintext) := by
    rw [linesOf_append hNone, hBytes, linesOf, if_pos rfl, List.append_nil]
    rfl
  exact hEnding ▸ .ending hLines hLong

theorem Next.of_reads {room : Nat} {plaintext plaintext' : List Byte} {reads reads' : List TlsRead}
    {received : Received} (h : Next room plaintext' reads' received)
    (hBytes : plaintext' ++ bytesOf reads' = plaintext ++ bytesOf reads) (hEnding : endingOf reads' = endingOf reads) :
    Next room plaintext reads received := by
  cases h with
  | object hLines hLater hJudge => exact .object (hBytes ▸ hLines) (hLater.trans hEnding) hJudge
  | closed hLines hJudge => exact .closed (hBytes ▸ hLines) hJudge
  | raised hLines hJudge => exact .raised (hBytes ▸ hLines) hJudge
  | tooLong hLines hTail => exact .tooLong (hBytes ▸ hLines) hTail
  | ending hLines hTail => exact hEnding ▸ .ending (hBytes ▸ hLines) hTail

theorem next_receiveJson (room : Nat) (plaintext : List Byte) (reads : List TlsRead) :
    Next room plaintext reads (receiveJson room plaintext reads) := by
  induction reads generalizing plaintext with
  | nil =>
    cases hCut : cutLine plaintext with
    | some cut => exact next_of_cut hCut []
    | none =>
      have hNone := cutLine_eq_none.mp hCut
      rw [receiveJson.eq_def, hCut]
      dsimp only
      split_ifs with hLong
      · exact next_of_long hNone hLong []
      · exact next_of_ended hNone hLong rfl rfl
  | cons read reads ih =>
    cases hCut : cutLine plaintext with
    | some cut => exact next_of_cut hCut _
    | none =>
      have hNone := cutLine_eq_none.mp hCut
      rw [receiveJson.eq_def, hCut]
      dsimp only
      split_ifs with hLong
      · exact next_of_long hNone hLong _
      · cases read with
        | chunk bytes =>
          dsimp only
          split_ifs with hBytes
          · exact next_of_ended hNone hLong (by rw [bytesOf, if_pos hBytes]) (by rw [endingOf, if_pos hBytes])
          · refine (ih (plaintext ++ bytes)).of_reads ?_ ?_
            · rw [bytesOf, if_neg hBytes, List.append_assoc]
            · rw [endingOf, if_neg hBytes]
        | wantRead => exact (ih plaintext).of_reads rfl rfl
        | linkClosed => exact next_of_ended hNone hLong rfl rfl
        | zeroReturn => exact next_of_ended hNone hLong rfl rfl
        | sslError => exact next_of_ended hNone hLong rfl rfl

/-- The session serves the lines of the stream, however TLS hands it out. -/
theorem serve_eq_serveLines (room : Nat) (each : σ → Members → Except End σ) (plaintext : List Byte)
    (reads : List TlsRead) (s : σ) :
    serve room each plaintext reads s =
      serveLines room each (linesOf (plaintext ++ bytesOf reads)).2 (endingOf reads)
        (linesOf (plaintext ++ bytesOf reads)).1 s := by
  induction hWeight : weight plaintext reads using Nat.strongRecOn generalizing plaintext reads s with
  | ind n ih =>
    have hNext := next_receiveJson room plaintext reads
    rw [serve]
    split
    · rename_i ending hReceived
      rw [hReceived] at hNext
      cases hNext with
      | closed hLines hJudge => rw [hLines, serveLines, hJudge]
      | raised hLines hJudge => rw [hLines, serveLines, hJudge]
      | tooLong hLines hTail => rw [hLines, serveLines, if_pos hTail]
      | ending hLines hTail => rw [hLines, serveLines, if_neg hTail]
    · rename_i members left later hReceived
      have hLess := weight_lt_of_receiveJson hReceived
      rw [hReceived] at hNext
      cases hNext with
      | object hLines hLater hJudge =>
        rw [hLines, serveLines, hJudge]
        dsimp only
        cases each s members with
        | error ending => rfl
        | ok s' =>
          dsimp only
          rw [ih _ (hWeight ▸ hLess) left later s' rfl, hLater]

end EidolonAdmin.Bootstrap.TlsSession
