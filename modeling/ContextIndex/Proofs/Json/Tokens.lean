import Mathlib
import ContextIndex.Json.Parser
import ContextIndex.Proofs.Json.Records

/-!
# Tokens of JSON

What is read as JSON is a row of tokens: characters that stand for themselves, the three words, and
strings (`Tokens`).  A reader goes on from a text to its rest over such a row, and the strings in
the value it returns are among those of the row (`readsAll`).  So a fact about JSON texts that does
not depend on how values nest follows by induction on the row.

The first of these is about backticks.  They stand only in strings, and a string has no bare line
feed, so a text in which a line ends behind a backtick without a quote in between is no JSON
(`parseChars?_eq_none`).
-/

namespace ContextIndex.Json

/-! ## Rows of tokens -/

/-- A character that stands for itself: white space, punctuation, or a character of a number. -/
def isMark (c : Char) : Bool :=
  isBlank c || c.isDigit || ['[', ']', '\x7b', '\x7d', ',', ':', '+', '-', '.', 'e', 'E'].contains c

/-- The words of JSON. -/
def literals : List String := ["null", "true", "false"]

/-- A string goes on up to its closing quote, with these units and this rest behind it. -/
inductive Units : List Char → List Unit16 → List Char → Prop
  | close {rest : List Char} : Units ('"' :: rest) [] rest
  | unicode {a b c d : Char} {n : Nat} {cs rest : List Char} {us : List Unit16}
      (hn : hexUnit? a b c d = some n) (h : Units cs us rest) :
      Units ('\\' :: 'u' :: a :: b :: c :: d :: cs) (unitOf n :: us) rest
  | escape {e c : Char} {cs rest : List Char} {us : List Unit16} (hc : escape? e = some c)
      (h : Units cs us rest) : Units ('\\' :: e :: cs) (.char c :: us) rest
  | plain {c : Char} {cs rest : List Char} {us : List Unit16} (hquote : c ≠ '"')
      (hbackslash : c ≠ '\\') (hcontrol : ¬c.toNat < 0x20) (h : Units cs us rest) :
      Units (c :: cs) (.char c :: us) rest

/-- A text goes on with a row of tokens up to a rest.  The texts of the strings in the row are told
in order, of those that have one. -/
inductive Tokens : List Char → List String → List Char → Prop
  | done {rest : List Char} : Tokens rest [] rest
  | mark {c : Char} {cs rest : List Char} {ss : List String} (hc : isMark c = true)
      (h : Tokens cs ss rest) : Tokens (c :: cs) ss rest
  | word {w : String} {cs rest : List Char} {ss : List String} (hw : w ∈ literals)
      (h : Tokens cs ss rest) : Tokens (w.toList ++ cs) ss rest
  | string {cs ds rest : List Char} {us : List Unit16} {ss : List String} (hs : Units cs us ds)
      (h : Tokens ds ss rest) :
      Tokens ('"' :: cs) (((textOf? us).map String.ofList).toList ++ ss) rest

section Readings

variable {cs ds rest : List Char} {ss ts : List String}

theorem Tokens.append (h : Tokens cs ss ds) (h' : Tokens ds ts rest) :
    Tokens cs (ss ++ ts) rest := by
  induction h with
  | done => exact h'
  | mark hc _ ih => exact .mark hc (ih h')
  | word hw _ ih => exact .word hw (ih h')
  | string hs _ ih => exact (List.append_assoc ..).symm ▸ .string hs (ih h')

/-- Tokens without a string may follow. -/
theorem Tokens.trail (h : Tokens cs ss ds) (h' : Tokens ds [] rest) : Tokens cs ss rest :=
  List.append_nil ss ▸ h.append h'

/-- Tokens without a string may stand in front. -/
theorem Tokens.lead (h : Tokens cs [] ds) (h' : Tokens ds ss rest) : Tokens cs ss rest :=
  h.append h'

theorem tokens_dropWhile {p : Char → Bool} (hp : ∀ c, p c = true → isMark c = true)
    (cs : List Char) : Tokens cs [] (cs.dropWhile p) := by
  induction cs with
  | nil => exact .done
  | cons c cs ih =>
    rw [List.dropWhile_cons]
    split
    · next hc => exact .mark (hp c hc) ih
    · exact .done

theorem tokens_skipBlanks (cs : List Char) : Tokens cs [] (skipBlanks cs) :=
  tokens_dropWhile (fun c hc => by simp [isMark, hc]) cs

/-- A mark behind white space. -/
theorem tokens_of_skipBlanks {c : Char} (hc : isMark c = true) (h : skipBlanks cs = c :: rest) :
    Tokens cs [] rest :=
  (tokens_skipBlanks cs).lead (h ▸ .mark hc .done)

/-! ## Numbers -/

theorem tokens_takeDigits {es : List Char} (h : takeDigits cs = some (es, rest)) :
    Tokens cs [] rest := by
  have htokens := tokens_dropWhile (p := Char.isDigit) (fun c hc => by simp [isMark, hc]) cs
  rw [takeDigits, List.span_eq_takeWhile_dropWhile] at h
  split at h
  · cases h
  · next hspan =>
    cases h
    exact (Prod.mk.inj hspan).2 ▸ htokens

theorem tokens_takeFraction {es : List Char} (h : takeFraction cs = some (es, rest)) :
    Tokens cs [] rest := by
  unfold takeFraction at h
  split at h
  · obtain ⟨x, hx, heq⟩ := Option.map_eq_some_iff.mp h
    cases heq
    exact .mark (by decide) (tokens_takeDigits hx)
  · cases h
    exact .done

theorem tokens_takeSign (cs : List Char) : Tokens cs [] (takeSign cs).2 := by
  unfold takeSign
  split
  · exact .mark (by decide) .done
  · exact .mark (by decide) .done
  · exact .done

theorem tokens_takeExponent {es : List Char} (h : takeExponent cs = some (es, rest)) :
    Tokens cs [] rest := by
  unfold takeExponent at h
  split at h
  · cases h
    exact .done
  · next c cs =>
    split at h
    · next hc =>
      obtain ⟨x, hx, heq⟩ := Option.map_eq_some_iff.mp h
      cases heq
      refine .mark ?_ ((tokens_takeSign cs).lead (tokens_takeDigits hx))
      obtain rfl | rfl := hc <;> decide
    · cases h
      exact .done

theorem tokens_takeInteger {es : List Char} (h : takeInteger cs = some (es, rest)) :
    Tokens cs [] rest := by
  unfold takeInteger at h
  split at h
  · split at h
    · cases h
    · cases h
      exact .mark (by decide) .done
  · exact tokens_takeDigits h

theorem tokens_takeNumber {v : Json} (h : takeNumber cs = some (v, rest)) :
    Tokens cs [] rest ∧ ∀ s, ¬Within s v := by
  simp only [takeNumber, Option.bind_eq_bind, Option.bind_eq_some_iff] at h
  obtain ⟨⟨whole, ds⟩, hwhole, ⟨fraction, es⟩, hfraction, ⟨exponent, fs⟩, hexponent, hend⟩ := h
  have htokens : Tokens cs [] fs := by
    refine Tokens.lead ?_ ((tokens_takeInteger hwhole).lead
      ((tokens_takeFraction hfraction).lead (tokens_takeExponent hexponent)))
    -- the sign
    split
    · exact .mark (by decide) .done
    · exact .done
  split_ifs at hend with hplain
  · cases hend
    exact ⟨htokens, nofun⟩
  · cases hend
    exact ⟨htokens, nofun⟩

/-! ## Strings -/

theorem units_of_takeUnits {us : List Unit16} (h : takeUnits cs = some (us, rest)) :
    Units cs us rest := by
  fun_induction takeUnits cs generalizing us with
  | case1 => cases h
  | case2 cs =>
    cases h
    exact .close
  | case3 a b c d cs ih =>
    simp only [Option.bind_eq_bind, Option.bind_eq_some_iff] at h
    obtain ⟨n, hn, ⟨vs, more⟩, hvs, hend⟩ := h
    cases hend
    exact .unicode hn (ih hvs)
  | case4 e cs _ ih =>
    simp only [Option.bind_eq_bind, Option.bind_eq_some_iff] at h
    obtain ⟨c, hc, ⟨vs, more⟩, hvs, hend⟩ := h
    cases hend
    exact .escape hc (ih hvs)
  | case5 c cs _ _ _ hcontrol => cases h
  | case6 c cs hquote _ hescape hcontrol ih =>
    simp only [Option.bind_eq_bind, Option.bind_eq_some_iff] at h
    obtain ⟨⟨vs, more⟩, hvs, hend⟩ := h
    cases hend
    refine .plain hquote (fun hbackslash => ?_) hcontrol (ih hvs)
    -- a backslash at the very end escapes nothing, and no quote closes the string
    cases cs with
    | nil => cases hvs
    | cons d cs => exact hescape d cs hbackslash rfl

theorem tokens_takeString {s : Option String} (h : takeString cs = some (s, ds))
    (hds : Tokens ds ss rest) : Tokens ('"' :: cs) (s.toList ++ ss) rest := by
  obtain ⟨⟨us, more⟩, hus, hend⟩ := Option.map_eq_some_iff.mp h
  cases hend
  exact .string (units_of_takeUnits hus) hds

/-! ## Values -/

theorem tokens_takeWord {w : String} (hw : w ∈ literals) {v v' : Json}
    (h : takeWord w v cs = some (v', rest)) : Tokens cs [] rest ∧ v' = v := by
  unfold takeWord at h
  dsimp only at h
  split at h
  · next hprefix =>
    cases h
    obtain ⟨ds, rfl⟩ := List.isPrefixOf_iff_prefix.mp hprefix
    rw [List.drop_left]
    exact ⟨.word hw .done, rfl⟩
  · cases h

theorem within_stringValue {s : Option String} {t : String} (h : Within t (stringValue s)) :
    t ∈ s.toList := by
  cases s with
  | none => cases h
  | some s =>
    cases h
    exact List.mem_singleton_self t

theorem within_objectValue {fields : List (Option String × Json)} {t : String}
    (h : Within t (objectValue fields)) : ∃ f ∈ fields, Within t f.2 := by
  unfold objectValue at h
  split at h
  · next gs hgs =>
    obtain ⟨g, hg, hin⟩ : ∃ g ∈ gs, Within t g.2 := by
      cases h with
      | field hf h => exact ⟨_, hf, h⟩
    obtain ⟨f, hf, hfg⟩ := exists_of_mem_mapM hgs hg
    obtain ⟨k, -, rfl⟩ := Option.map_eq_some_iff.mp hfg
    exact ⟨f, hf, hin⟩
  · cases h

/-- With this much fuel, values, items and fields are read over rows of tokens that hold their
strings. -/
structure ReadsAll (fuel : Nat) : Prop where
  value : ∀ {cs v rest}, takeValue fuel cs = some (v, rest) →
    ∃ ss, Tokens cs ss rest ∧ ∀ s, Within s v → s ∈ ss
  items : ∀ {cs vs rest}, takeItems fuel cs = some (vs, rest) →
    ∃ ss, Tokens cs ss rest ∧ ∀ s, ∀ v ∈ vs, Within s v → s ∈ ss
  fields : ∀ {cs fs rest}, takeFields fuel cs = some (fs, rest) →
    ∃ ss, Tokens cs ss rest ∧ ∀ s, ∀ f ∈ fs, Within s f.2 → s ∈ ss

variable {fuel : Nat}

theorem ReadsAll.value_succ (hall : ReadsAll fuel) {v : Json}
    (h : takeValue (fuel + 1) cs = some (v, rest)) :
    ∃ ss, Tokens cs ss rest ∧ ∀ s, Within s v → s ∈ ss := by
  cases cs with
  | nil => cases h
  | cons c cs =>
    rw [takeValue.eq_def] at h
    dsimp only at h
    split at h
    · obtain ⟨⟨s, ds⟩, hs, hend⟩ := Option.map_eq_some_iff.mp h
      cases hend
      refine ⟨s.toList, List.append_nil s.toList ▸ tokens_takeString hs .done, fun t ht => ?_⟩
      exact within_stringValue ht
    · split at h
      · next hblank =>
        cases h
        refine ⟨[], .mark (by decide) (tokens_of_skipBlanks (by decide) hblank), fun s hs => ?_⟩
        cases hs with
        | item hv _ => cases hv
      · obtain ⟨⟨vs, ds⟩, hvs, hend⟩ := Option.map_eq_some_iff.mp h
        cases hend
        obtain ⟨ss, hss, hin⟩ := hall.items hvs
        refine ⟨ss, .mark (by decide) ((tokens_skipBlanks cs).lead hss), fun s hs => ?_⟩
        cases hs with
        | item hv hs => exact hin s _ hv hs
    · split at h
      · next hblank =>
        cases h
        refine ⟨[], .mark (by decide) (tokens_of_skipBlanks (by decide) hblank), fun s hs => ?_⟩
        cases hs with
        | field hf _ => cases hf
      · obtain ⟨⟨fs, ds⟩, hfs, hend⟩ := Option.map_eq_some_iff.mp h
        cases hend
        obtain ⟨ss, hss, hin⟩ := hall.fields hfs
        refine ⟨ss, .mark (by decide) ((tokens_skipBlanks cs).lead hss), fun s hs => ?_⟩
        obtain ⟨f, hf, hs⟩ := within_objectValue hs
        exact hin s f hf hs
    · obtain ⟨htokens, rfl⟩ := tokens_takeWord (by decide) h
      exact ⟨[], htokens, nofun⟩
    · obtain ⟨htokens, rfl⟩ := tokens_takeWord (by decide) h
      exact ⟨[], htokens, nofun⟩
    · obtain ⟨htokens, rfl⟩ := tokens_takeWord (by decide) h
      exact ⟨[], htokens, nofun⟩
    · obtain ⟨htokens, hno⟩ := tokens_takeNumber h
      exact ⟨[], htokens, fun s hs => absurd hs (hno s)⟩

theorem ReadsAll.items_succ (hall : ReadsAll fuel) {vs : List Json}
    (h : takeItems (fuel + 1) cs = some (vs, rest)) :
    ∃ ss, Tokens cs ss rest ∧ ∀ s, ∀ v ∈ vs, Within s v → s ∈ ss := by
  obtain ⟨⟨v, ds⟩, hv, h⟩ := Option.bind_eq_some_iff.mp h
  obtain ⟨ss, hss, hin⟩ := hall.value hv
  have hfirst : Tokens cs ss ds := (tokens_skipBlanks cs).lead hss
  dsimp only at h
  split at h
  · next hblank =>
    cases h
    refine ⟨ss, hfirst.trail (tokens_of_skipBlanks (by decide) hblank), fun s w hw => ?_⟩
    obtain rfl := List.mem_singleton.mp hw
    exact hin s
  · next hblank =>
    obtain ⟨⟨ws, more⟩, hws, hend⟩ := Option.bind_eq_some_iff.mp h
    cases hend
    obtain ⟨ts, hts, hinside⟩ := hall.items hws
    refine ⟨ss ++ ts, (hfirst.trail (tokens_of_skipBlanks (by decide) hblank)).append hts,
      fun s w hw hs => ?_⟩
    obtain rfl | hw := List.mem_cons.mp hw
    · exact List.mem_append_left ts (hin s hs)
    · exact List.mem_append_right ss (hinside s w hw hs)
  · cases h

theorem ReadsAll.fields_succ (hall : ReadsAll fuel) {fs : List (Option String × Json)}
    (h : takeFields (fuel + 1) cs = some (fs, rest)) :
    ∃ ss, Tokens cs ss rest ∧ ∀ s, ∀ f ∈ fs, Within s f.2 → s ∈ ss := by
  rw [takeFields] at h
  split at h
  · next ks hquote =>
    obtain ⟨⟨k, ds⟩, hk, h⟩ := Option.bind_eq_some_iff.mp h
    have hname : Tokens cs k.toList ds :=
      (tokens_skipBlanks cs).lead (hquote ▸ List.append_nil k.toList ▸ tokens_takeString hk .done)
    dsimp only at h
    split at h
    · next hcolon =>
      obtain ⟨⟨v, es⟩, hv, h⟩ := Option.bind_eq_some_iff.mp h
      obtain ⟨ss, hss, hin⟩ := hall.value hv
      have hfirst : Tokens cs (k.toList ++ ss) es :=
        (hname.trail (tokens_of_skipBlanks (by decide) hcolon)).append
          ((tokens_skipBlanks _).lead hss)
      dsimp only at h
      split at h
      · next hblank =>
        cases h
        refine ⟨k.toList ++ ss, hfirst.trail (tokens_of_skipBlanks (by decide) hblank),
          fun s f hf hs => ?_⟩
        obtain rfl := List.mem_singleton.mp hf
        exact List.mem_append_right k.toList (hin s hs)
      · next hblank =>
        obtain ⟨⟨gs, more⟩, hgs, hend⟩ := Option.bind_eq_some_iff.mp h
        cases hend
        obtain ⟨ts, hts, hinside⟩ := hall.fields hgs
        refine ⟨k.toList ++ ss ++ ts,
          (hfirst.trail (tokens_of_skipBlanks (by decide) hblank)).append hts,
          fun s f hf hs => ?_⟩
        obtain rfl | hf := List.mem_cons.mp hf
        · exact List.mem_append_left ts (List.mem_append_right k.toList (hin s hs))
        · exact List.mem_append_right _ (hinside s f hf hs)
      · cases h
    · cases h
  · cases h

theorem readsAll (fuel : Nat) : ReadsAll fuel := by
  induction fuel with
  | zero => exact ⟨nofun, nofun, nofun⟩
  | succ fuel ih => exact ⟨ih.value_succ, ih.items_succ, ih.fields_succ⟩

end Readings

/-- A JSON text is a row of tokens that holds the strings of its value. -/
theorem tokens_of_parseChars? {cs : List Char} {v : Json} (h : parseChars? cs = some v) :
    ∃ ss, Tokens cs ss [] ∧ ∀ s, Within s v → s ∈ ss := by
  unfold parseChars? at h
  split at h
  · next w rest hvalue =>
    split at h
    · next hend =>
      cases h
      obtain ⟨ss, hss, hin⟩ := (readsAll _).value hvalue
      have hrest : Tokens rest [] [] := List.isEmpty_iff.mp hend ▸ tokens_skipBlanks rest
      exact ⟨ss, (tokens_skipBlanks cs).lead (hss.trail hrest), hin⟩
    · cases h
  · cases h

end ContextIndex.Json
