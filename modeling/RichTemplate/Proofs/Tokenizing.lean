import Mathlib.Data.List.InsertIdx
import RichTemplate.Yaml.Tokens

/-!
# What can be wrong with tokens

The tokens of a text end with what is wrong behind them. A token that is none is mostly wrong in its
form only, but an escape may name no character and a version may have too many digits. Otherwise it
is the reading of the text that breaks off there.
-/

namespace RichTemplate.Yaml

/-- Fails in no other way than in one of a kind. -/
def FailsBy {ε α : Type} (P : ε → Prop) (x : Except ε α) : Prop :=
  ∀ e, x = .error e → P e

namespace FailsBy

variable {ε α β : Type} {P Q : ε → Prop} {x y : Except ε α}

theorem ok (a : α) : FailsBy P (.ok a) := by
  rintro e ⟨⟩

theorem error {e : ε} (h : P e) : FailsBy P (.error e : Except ε α) := by
  rintro _ ⟨⟩
  exact h

theorem bind {f : α → Except ε β} (hx : FailsBy P x) (hf : ∀ a, FailsBy P (f a)) :
    FailsBy P (x >>= f) := by
  cases x with
  | ok a => exact hf a
  | error e => exact error (hx e rfl)

theorem ite {c : Prop} [Decidable c] (hx : FailsBy P x) (hy : FailsBy P y) :
    FailsBy P (if c then x else y) := by
  split
  · exact hx
  · exact hy

theorem mono (h : FailsBy P x) (hPQ : ∀ e, P e → Q e) : FailsBy Q x :=
  fun e he => hPQ e (h e he)

end FailsBy

/-! ### Parts of tokens -/

inductive Error.Lexical : Error → Prop
  | malformed : Lexical .malformed
  | endsEarly : Lexical .endsEarly
  | codePoint (code : Nat) : Lexical (.codePointOutOfRange code)
  | digits (count : Nat) : Lexical (.tooManyDigits count)

open Error (Lexical)

variable (c : Cursor)

theorem lexical_fault : Lexical c.fault := by
  unfold Cursor.fault
  split
  · exact .endsEarly
  · exact .malformed

theorem lexical_hexFault (count : Nat) (cs : List Char) : Lexical (hexFault count cs) := by
  unfold hexFault
  split
  · exact .endsEarly
  · exact .malformed

theorem failsBy_readAnchorName : FailsBy Lexical (readAnchorName c) :=
  .ite (.error (lexical_fault _)) (.ite (.ok _) (.error .malformed))

theorem failsBy_readEscapedBytes (fuel : Nat) : FailsBy Lexical (readEscapedBytes fuel c) := by
  induction fuel generalizing c with
  | zero => exact .ok _
  | succ fuel ih =>
    refine .ite ?_ (.ok _)
    split
    · exact (ih _).bind fun _ => .ok _
    · exact .error (lexical_hexFault _ _)

theorem failsBy_readUriPieces (fuel : Nat) : FailsBy Lexical (readUriPieces fuel c) := by
  induction fuel generalizing c with
  | zero => exact .ok _
  | succ fuel ih =>
    refine .ite ((failsBy_readEscapedBytes _ _).bind ?_) (.ite (.ok _) ?_)
    · rintro ⟨bytes, c'⟩
      dsimp only
      split
      · exact (ih _).bind fun _ => .ok _
      · exact .error .malformed
    · exact (ih _).bind fun _ => .ok _

theorem failsBy_readUri : FailsBy Lexical (readUri c) := by
  refine (failsBy_readUriPieces _ _).bind ?_
  rintro ⟨text, c'⟩
  exact .ite (.error (lexical_fault c)) (.ok _)

theorem failsBy_readHandle : FailsBy Lexical (readHandle c) :=
  .ite (.ite (.ok _) (.ite (.ok _) (.error (lexical_fault _)))) (.error (lexical_fault c))

theorem failsBy_readTagName : FailsBy Lexical (readTagName c) := by
  refine .ite ((failsBy_readUri _).bind ?_) (.ite (.ok _) (.ite ((failsBy_readHandle c).bind ?_)
    ((failsBy_readUri _).bind fun _ => .ok _)))
  · rintro ⟨suffix, c'⟩
    exact .ite (.ok _) (.error (lexical_fault c'))
  · rintro ⟨handle, c'⟩
    exact (failsBy_readUri c').bind fun _ => .ok _

theorem failsBy_readTag : FailsBy Lexical (readTag c) := by
  refine (failsBy_readTagName c).bind ?_
  rintro ⟨name, c'⟩
  exact .ite (.ok _) (.error .malformed)

theorem failsBy_readVersionNumber : FailsBy Lexical (readVersionNumber c) :=
  .ite (.error (lexical_fault c)) (.ite (.error (.digits _)) (.ok _))

theorem failsBy_readVersion : FailsBy Lexical (readVersion c) := by
  refine (failsBy_readVersionNumber _).bind ?_
  rintro ⟨major, c'⟩
  refine .ite ((failsBy_readVersionNumber _).bind ?_) (.error (lexical_fault c'))
  rintro ⟨minor, c''⟩
  exact .ite (.ok _) (.error .malformed)

theorem failsBy_readTagDirective : FailsBy Lexical (readTagDirective c) := by
  refine (failsBy_readHandle _).bind ?_
  rintro ⟨handle, c'⟩
  refine .ite ((failsBy_readUri _).bind ?_) (.error (lexical_fault c'))
  rintro ⟨leading, c''⟩
  exact .ite (.ok _) (.error .malformed)

theorem failsBy_skipLineRest : FailsBy Lexical (skipLineRest c) :=
  .ite (.ok _) (.error .malformed)

theorem failsBy_readDirective : FailsBy Lexical (readDirective c) := by
  have hrest (d : Directive × Cursor) :
      FailsBy Lexical (do return (d.1, ← skipLineRest d.2)) :=
    (failsBy_skipLineRest d.2).bind fun _ => .ok _
  unfold readDirective
  dsimp only
  refine .ite (.error (lexical_fault _)) ?_
  split
  · exact (failsBy_readVersion _).bind hrest
  split
  · exact (failsBy_readTagDirective _).bind hrest
  · exact (FailsBy.ok _).bind hrest

theorem failsBy_quotedBreaks (fuel : Nat) : FailsBy Lexical (quotedBreaks fuel c) := by
  induction fuel generalizing c with
  | zero => exact .ok _
  | succ fuel ih =>
    refine .ite (.error .malformed) ?_
    dsimp only
    split
    · exact (ih _).bind fun _ => .ok _
    · exact .ok _

theorem failsBy_readEscape : FailsBy Lexical (readEscape c) := by
  unfold readEscape
  split
  · exact .error (lexical_fault c)
  · split
    · exact .ok _
    · split
      · split
        · exact .ite (.ok _) (.error (.codePoint _))
        · exact .error (lexical_hexFault _ _)
      · exact .ite (failsBy_quotedBreaks _ _) (.error .malformed)

theorem failsBy_quotedParts (quote : Char) (fuel : Nat) :
    FailsBy Lexical (quotedParts quote fuel c) := by
  induction fuel generalizing c with
  | zero => exact .error .malformed
  | succ fuel ih =>
    have hfollowed (text : List Char) (c' : Cursor) : FailsBy Lexical (do
        let more ← quotedParts quote fuel c'
        return (text ++ more.1, more.2)) := (ih c').bind fun _ => .ok _
    unfold quotedParts
    dsimp only
    split
    · exact .error (lexical_fault c)
    · refine .ite (.ite (hfollowed _ _) (.ok _)) (.ite ?_ (.ite ?_ (.ite ?_ (.ite (hfollowed _ _)
        (hfollowed _ _)))))
      · split
        · exact .error (lexical_fault _)
        · exact .ite (hfollowed _ _) (hfollowed _ _)
      · split
        · exact (failsBy_quotedBreaks _ _).bind fun _ => hfollowed _ _
        · exact .error .malformed
      · exact (failsBy_readEscape _).bind fun _ => hfollowed _ _

theorem failsBy_readQuoted (quote : Char) : FailsBy Lexical (readQuoted quote c) :=
  (failsBy_quotedParts _ _ _).bind fun _ => .ok _

theorem failsBy_increment? (next : Option Char) : FailsBy Lexical (increment? next) := by
  cases next with
  | none => exact .ok _
  | some ch => exact .ite (.error .malformed) (.ite (.ok _) (.ok _))

theorem failsBy_readBlockHeader : FailsBy Lexical (readBlockHeader c) := by
  have hrest (header : BlockHeader × Cursor) : FailsBy Lexical
      (if endsField header.2.first? then return header else .error .malformed) :=
    .ite (.ok _) (.error .malformed)
  unfold readBlockHeader
  split
  next =>
    refine (failsBy_increment? _).bind fun n => ?_
    cases n <;> exact (FailsBy.ok _).bind hrest
  next =>
    refine (failsBy_increment? _).bind fun n => ?_
    cases n with
    | none => exact (FailsBy.ok _).bind hrest
    | some n =>
      dsimp only
      split <;> exact (FailsBy.ok _).bind hrest

theorem failsBy_readBlockScalar (folded : Bool) (parent : Int) :
    FailsBy Lexical (readBlockScalar folded parent c) := by
  refine (failsBy_readBlockHeader _).bind ?_
  rintro ⟨header, c'⟩
  refine (failsBy_skipLineRest c').bind fun start => ?_
  dsimp only
  split <;> exact .ite (.ok _) (.ok _)

/-! ### Tokens -/

namespace Tokens

def Clean (s : Tokens) : Prop :=
  ∀ e, .invalid e ∉ s.tokens

theorem clean_ofText (cs : List Char) : (ofText cs).Clean :=
  fun _ => List.not_mem_nil

namespace Clean

variable {s : Tokens} {t : Token}

theorem congr {s' : Tokens} (h : s.Clean) (htokens : s'.tokens = s.tokens) : s'.Clean :=
  fun e => htokens ▸ h e

theorem emit (h : s.Clean) (ht : ∀ e, t ≠ .invalid e) : (s.emit t).Clean := by
  intro e he
  obtain heq | he := List.mem_cons.mp he
  · exact ht e heq.symm
  · exact h e he

theorem insertAt (h : s.Clean) (ht : ∀ e, t ≠ .invalid e) (position : Nat) :
    (s.insertAt position t).Clean := by
  intro e he
  obtain heq | he := List.eq_or_mem_of_mem_insertIdx he
  · exact ht e heq.symm
  · exact h e he

theorem openBlock (h : s.Clean) {opening : Tokens → Tokens}
    (hopening : ∀ s : Tokens, s.Clean → (opening s).Clean) (column : Int) :
    (s.openBlock column opening).Clean := by
  unfold Tokens.openBlock
  split
  · exact hopening _ h
  · exact h

theorem closeBlocks (h : s.Clean) (column : Int) (indents : List Int) :
    (Tokens.closeBlocks column indents s).Clean := by
  induction indents generalizing s with
  | nil => exact h
  | cons outer rest ih =>
    unfold Tokens.closeBlocks
    split
    · refine ih (emit ?_ fun _ => Token.noConfusion)
      exact h
    · exact h

theorem unwindTo (h : s.Clean) (column : Int) : (s.unwindTo column).Clean := by
  unfold Tokens.unwindTo
  split
  · exact h
  · exact h.closeBlocks column _

theorem skipBlank (h : s.Clean) (fuel : Nat) : (Tokens.skipBlank fuel s).Clean := by
  induction fuel generalizing s with
  | zero => exact h
  | succ fuel ih =>
    unfold Tokens.skipBlank
    dsimp only
    split
    · refine ih ?_
      exact h
    · exact h

theorem toNextToken (h : s.Clean) : s.toNextToken.Clean := by
  refine skipBlank ?_ _
  exact h

end Clean

/-- Reading a token gives tokens none of which says what is wrong, or fails for what is wrong with
the token. -/
structure Reads (x : Except Error Tokens) : Prop where
  failsBy : FailsBy Lexical x
  clean : ∀ s, x = .ok s → s.Clean

namespace Reads

variable {x y : Except Error Tokens}

theorem ok {s : Tokens} (h : s.Clean) : Reads (.ok s) where
  failsBy := .ok s
  clean := by
    rintro _ ⟨⟩
    exact h

theorem error {e : Error} (h : Lexical e) : Reads (.error e) where
  failsBy := .error h
  clean := by rintro _ ⟨⟩

theorem bind {f : Tokens → Except Error Tokens} (hx : Reads x)
    (hf : ∀ s : Tokens, s.Clean → Reads (f s)) : Reads (x >>= f) := by
  cases x with
  | ok s => exact hf s (hx.clean s rfl)
  | error e => exact error (hx.failsBy e rfl)

theorem ofPart {α : Type} {part : Except Error α} {f : α → Except Error Tokens}
    (hpart : FailsBy Lexical part) (hf : ∀ a, Reads (f a)) : Reads (part >>= f) := by
  cases part with
  | ok a => exact hf a
  | error e => exact error (hpart e rfl)

theorem ite {c : Prop} [Decidable c] (hx : Reads x) (hy : Reads y) :
    Reads (if c then x else y) := by
  split
  · exact hx
  · exact hy

end Reads

section Reading

variable {s : Tokens} (h : s.Clean)

include h

theorem reads_dropStaleKeys : Reads s.dropStaleKeys :=
  .ite (.error .malformed) (.ok h)

theorem reads_dropKey : Reads s.dropKey :=
  .ite (.error .malformed) (.ok h)

theorem reads_noteKey : Reads s.noteKey :=
  .ite ((reads_dropKey h).bind fun _ h => .ok h) (.ok h)

theorem reads_leaveDocument : Reads s.leaveDocument :=
  (reads_dropKey (h.unwindTo (-1))).bind fun _ h => .ok h

theorem reads_openMapping : Reads s.openMapping := by
  refine .ite (.ok h) (.ite (.ok ?_) (.error .malformed))
  exact h.openBlock (fun _ h => h.emit fun _ => Token.noConfusion) _

/-- A part is read where a key may start, and becomes a token. -/
theorem reads_readPart {α : Type} {read : Cursor → Except Error (α × Cursor)} {token : α → Token}
    (hread : ∀ c, FailsBy Lexical (read c)) (htoken : ∀ a e, token a ≠ .invalid e) :
    Reads (s.readPart fun c => do
      let (a, c') ← read c
      return (token a, c')) := by
  refine (reads_noteKey h).bind fun s h => ?_
  dsimp only
  cases hpart : read s.cursor with
  | error e => exact .error (hread _ e hpart)
  | ok part => exact .ok (Clean.emit h (htoken part.1))

theorem reads_readDocumentMark {t : Token} (ht : ∀ e, t ≠ .invalid e) :
    Reads (s.readDocumentMark t) :=
  (reads_leaveDocument h).bind fun _ h => .ok (Clean.emit h ht)

theorem reads_readDirectiveLine : Reads s.readDirectiveLine :=
  (reads_leaveDocument h).bind fun _ h => .ofPart (failsBy_readDirective _) fun _ =>
    .ok (Clean.emit h fun _ => Token.noConfusion)

theorem reads_openFlow {t : Token} (ht : ∀ e, t ≠ .invalid e) : Reads (s.openFlow t) :=
  (reads_noteKey h).bind fun _ h => .ok (Clean.emit h ht)

theorem reads_closeFlow {t : Token} (ht : ∀ e, t ≠ .invalid e) : Reads (s.closeFlow t) :=
  .ite ((reads_dropKey h).bind fun _ h => .ok (Clean.emit h ht)) (.error .malformed)

theorem reads_readFlowEntry : Reads s.readFlowEntry :=
  .bind (reads_dropKey (h.congr rfl)) fun _ h => .ok (Clean.emit h fun _ => Token.noConfusion)

theorem reads_readBlockEntry : Reads s.readBlockEntry := by
  have hentry {s : Tokens} (h : s.Clean) :
      Reads (do return (← s.allowKey.dropKey).emitPast 1 .blockEntry) :=
    .bind (reads_dropKey (h.congr rfl)) fun _ h => .ok (Clean.emit h fun _ => Token.noConfusion)
  have hopened : (s.openBlock s.column (Tokens.emit .blockSequenceStart)).Clean :=
    h.openBlock (fun _ h => h.emit fun _ => Token.noConfusion) _
  exact .ite (hentry h) (.ite (hentry hopened) (.error .malformed))

/-- A mark that stands by itself opens a mapping. -/
theorem reads_opened {t : Token} (ht : ∀ e, t ≠ .invalid e) : Reads (do
    let s' ← s.openMapping
    return (← { s' with keyAllowed := !s'.inFlow }.dropKey).emitPast 1 t) :=
  (reads_openMapping h).bind fun _ h => .bind (reads_dropKey (h.congr rfl)) fun _ h =>
    .ok (Clean.emit h ht)

theorem reads_readValue : Reads s.readValue := by
  unfold readValue
  split
  next key _ =>
    have hkey : (insertAt key.position .key
        { s with keys := s.keys.filter fun e => e.1 != s.flowLevel }).Clean :=
      Clean.insertAt h (fun _ => Token.noConfusion) _
    refine .ok (Clean.emit ?_ fun _ => Token.noConfusion)
    split
    · exact hkey
    · exact hkey.openBlock (fun _ h => h.insertAt (fun _ => Token.noConfusion) _) _
  next => exact reads_opened h fun _ => Token.noConfusion

theorem reads_readBlockToken (folded : Bool) : Reads (s.readBlockToken folded) :=
  .bind (reads_dropKey (h.congr rfl)) fun _ h => .ofPart (failsBy_readBlockScalar _ _ _) fun _ =>
    .ok (Clean.emit h fun _ => Token.noConfusion)

theorem reads_readPlainToken : Reads s.readPlainToken :=
  (reads_noteKey h).bind fun _ h => .ok (Clean.emit h fun _ => Token.noConfusion)

theorem reads_readFrom (first : Char) : Reads (s.readFrom first) := by
  have hnamed {token : String → Token} (htoken : ∀ name e, token name ≠ .invalid e) :
      Reads (s.readNamed token) :=
    reads_readPart h (fun _ => failsBy_readAnchorName _) htoken
  have hquoted : Reads (s.readQuotedToken first) := by
    let token : String → Token := fun text => .scalar text false
    have htoken : ∀ text e, token text ≠ .invalid e := fun _ _ => Token.noConfusion
    exact reads_readPart h (fun c => failsBy_readQuoted c first) htoken
  unfold readFrom
  dsimp only
  refine .ite (reads_readDirectiveLine h) ?_
  refine .ite (reads_readDocumentMark h fun _ => Token.noConfusion) ?_
  refine .ite (reads_readDocumentMark h fun _ => Token.noConfusion) ?_
  refine .ite (reads_openFlow h fun _ => Token.noConfusion) ?_
  refine .ite (reads_openFlow h fun _ => Token.noConfusion) ?_
  refine .ite (reads_closeFlow h fun _ => Token.noConfusion) ?_
  refine .ite (reads_closeFlow h fun _ => Token.noConfusion) ?_
  refine .ite (reads_readFlowEntry h) ?_
  refine .ite (reads_readBlockEntry h) ?_
  refine .ite (reads_opened h fun _ => Token.noConfusion) ?_
  refine .ite (reads_readValue h) ?_
  refine .ite (hnamed fun _ _ => Token.noConfusion) ?_
  refine .ite (hnamed fun _ _ => Token.noConfusion) ?_
  refine .ite (reads_readPart h failsBy_readTag fun _ _ => Token.noConfusion) ?_
  refine .ite (reads_readBlockToken h false) ?_
  refine .ite (reads_readBlockToken h true) ?_
  refine .ite hquoted ?_
  exact .ite (reads_readPlainToken h) (.error .malformed)

end Reading

/-! ### Where tokens end -/

section Running

variable {stop : Option Error} {s : Tokens} {e e' : Error}

theorem eq_of_mem_failed (h : s.Clean) (he : .invalid e ∈ s.failed e') : e = e' := by
  obtain heq | he := List.mem_cons.mp he
  · exact Token.invalid.inj heq
  · exact absurd (List.mem_of_mem_drop he) (h e)

theorem lexical_of_mem_failed (h : s.Clean) (hfault : Lexical e') (he : .invalid e ∈ s.failed e') :
    Lexical e := by
  rw [eq_of_mem_failed h he]
  exact hfault

theorem stop_of_stopHere? (h : s.stopHere? stop = some e) : stop = some e := by
  unfold stopHere? at h
  split at h
  · exact h
  · cases h

theorem stop_of_mem_failed {s' : Tokens} (h : s.Clean) (hstop : s'.stopHere? stop = some e')
    (he : .invalid e ∈ s.failed e') : stop = some e := by
  rw [eq_of_mem_failed h he]
  exact stop_of_stopHere? hstop

theorem stoppedBy_cases (h : Lexical e) :
    Lexical (stoppedBy stop e) ∨ stop = some (stoppedBy stop e) := by
  cases h with
  | endsEarly =>
    cases stop with
    | none => exact Or.inl .endsEarly
    | some e => exact Or.inr rfl
  | malformed => exact Or.inl .malformed
  | codePoint code => exact Or.inl (.codePoint code)
  | digits count => exact Or.inl (.digits count)

/-- What is wrong behind the tokens is wrong with a token, or it stops the reading of the text. -/
theorem lexical_or_stop_of_mem_run {fuel : Nat} (h : s.Clean)
    (he : .invalid e ∈ run stop fuel s) : Lexical e ∨ stop = some e := by
  induction fuel generalizing s with
  | zero => exact Or.inl (lexical_of_mem_failed h .malformed he)
  | succ fuel ih =>
    have htoken := reads_dropStaleKeys h.toNextToken
    rw [run] at he
    dsimp only at he
    split at he
    next hstop => exact Or.inr (stop_of_mem_failed h hstop he)
    next hstale => exact Or.inl (lexical_of_mem_failed h (htoken.failsBy _ hstale) he)
    next start _ hstale =>
      have hstart := (htoken.clean _ hstale).unwindTo start.column
      split at he
      next =>
        have hlast := reads_leaveDocument hstart
        split at he
        next last hleave =>
          obtain heq | he := List.mem_cons.mp he
          · cases heq
          · exact absurd he (hlast.clean _ hleave e)
        next hleave => exact Or.inl (lexical_of_mem_failed h (hlast.failsBy _ hleave) he)
      next first _ =>
        have hreads := reads_readFrom hstart first
        split at he
        next hread =>
          rw [eq_of_mem_failed h he]
          exact stoppedBy_cases (hreads.failsBy _ hread)
        next next hread =>
          have hnext := hreads.clean _ hread
          have hnextToken := reads_dropStaleKeys hnext
          split at he
          next hstop => exact Or.inr (stop_of_mem_failed h hstop he)
          next hstale => exact Or.inl (lexical_of_mem_failed h (hnextToken.failsBy _ hstale) he)
          next hstale => exact ih (hnextToken.clean _ hstale) he

end Running

end Tokens

theorem lexical_or_stop_of_mem_ofSource {source : Source} {e : Error}
    (he : .invalid e ∈ Token.ofSource source) : Lexical e ∨ source.stop = some e :=
  Tokens.lexical_or_stop_of_mem_run (Tokens.clean_ofText _) (List.mem_reverse.mp he)

end RichTemplate.Yaml
