import ContextIndex.Config.Services
import ContextIndex.Proofs.Extract.Settled
import ContextIndex.Proofs.Query.Context

/-!
# Signatures in a context

A context pays the same for each function that it lists, whatever the length of its signature.  So
what its texts cost when all of them are measured can differ from what it has spent, and
`contextQuery_measured` says by how much: the difference is between the signatures and their flat
price.

The rules cut every signature to a length that costs less than the price, and the shared filter and
the store leave it as it is.  So the context of a symbol in a file that the rules have read fits its
budget also when it is measured.  A language model may give a signature of any length, and
`contextQuery_over_budget` is a context that does not fit.
-/

namespace ContextIndex

/-! ## Signatures of the rules -/

namespace Extract

theorem length_of_mem_rawDeclarations {content language : String} {d : Declaration}
    (h : d ∈ rawDeclarations content language) :
    ∀ text ∈ d.signature, text.length ≤ maxSignature := by
  intro text htext
  obtain ⟨table, rule, m, -, -, -, rfl⟩ := exists_match_of_mem h
  simp only [declarationOf, Option.mem_def, Option.some.injEq] at htext
  rw [← htext, String.length_ofList]
  exact length_signatureOf_le _

/-- What the rules find and the filter leaves has short signatures. -/
theorem length_of_mem_declarations {content language : String} {d : Declaration}
    (h : d ∈ declarations content language) :
    ∀ text ∈ d.signature, text.length ≤ maxSignature := by
  obtain ⟨e, he, hsignature⟩ := signature_of_mem_settle h
  rw [← hsignature]
  exact length_of_mem_rawDeclarations he

end Extract

/-! ## Rows of an extractor -/

namespace Sync

/-- An extractor that a configuration can stand for: the rules, or a language model that is asked in
any way and replies anything. -/
def SymbolSource.Configured (y : SymbolSource) : Prop :=
  ∃ (c : Config) (t : Http.Transport), c.source? t = some y

theorem SymbolSource.Configured.cases {y : SymbolSource} (h : y.Configured) :
    y = .byRules ∨ ∃ t a, y = ⟨Extract.Model.extractor, Extract.Model.declarations t a⟩ := by
  obtain ⟨c, t, hsource⟩ := h
  cases hchoice : c.extractor with
  | rules =>
    simp only [Config.source?, hchoice, Option.some.injEq] at hsource
    exact .inl hsource.symm
  | model =>
    simp only [Config.source?, hchoice, Option.map_eq_some_iff] at hsource
    obtain ⟨key, -, hsource⟩ := hsource
    exact .inr ⟨t, _, hsource.symm⟩

end Sync

/-- The write of a file that has been read by one of the extractors. -/
def Store.FileWrite.Extracted (x : Store.FileWrite) : Prop :=
  ∃ (y : Sync.SymbolSource) (path : String) (file : Remote.File),
    y.Configured ∧ x = y.writeOf path file

/-- A row says which of the extractors has read the file; the signatures of the rules are short. -/
structure FileRow.Extracted (f : FileRow) : Prop where
  tagged : f.extractor = Extract.byRules.tag ∨ f.extractor = Extract.Model.extractor.tag
  short : f.extractor = Extract.byRules.tag →
    ∀ z ∈ f.symbols, ∀ text ∈ z.signature, text.length ≤ Extract.maxSignature

theorem Extract.tag_ne : Extract.Model.extractor.tag ≠ Extract.byRules.tag := by
  decide +kernel

theorem Store.FileWrite.Extracted.row {x : Store.FileWrite} (h : x.Extracted) (id : Nat)
    (now : Instant) : (x.row id now).Extracted := by
  obtain ⟨y, path, file, hy, rfl⟩ := h
  cases hy.cases with
  | inl hrules =>
    subst hrules
    refine ⟨.inl rfl, ?_⟩
    intro _ z hz
    obtain ⟨d, hd, rfl⟩ := List.mem_map.mp hz
    exact Extract.length_of_mem_declarations (List.mem_filter.mp hd).1
  | inr hmodel =>
    obtain ⟨t, a, rfl⟩ := hmodel
    exact ⟨.inr rfl, fun htag => absurd htag Extract.tag_ne⟩

namespace Query

/-! ## Measured contexts -/

/-- The cost of the signature of a function, if it has one. -/
def CalledFunction.signatureTokens (c : CalledFunction) : Nat :=
  (c.signature.map Token.cost).getD 0

/-- What the signatures of a context cost. -/
def SymbolContext.signatureTokens (x : SymbolContext) : Nat :=
  total (x.callees.map CalledFunction.signatureTokens)

/-- What the texts of a context cost: the source, the types and the signatures. -/
def SymbolContext.measured (x : SymbolContext) : Nat :=
  Token.cost x.target.content + total (x.types.map fun t => Token.cost t.content) +
    x.signatureTokens

/-- A signature that is no longer than those of the rules costs less than its price. -/
theorem cost_le_of_short {text : String} (h : text.length ≤ Extract.maxSignature) :
    Token.cost text ≤ signatureCost := by
  simp only [Extract.maxSignature] at h
  simp only [Token.cost, Token.costOfLength, Token.charsPerToken, signatureCost]
  omega

/-- The signatures of a context cost no more than their price if those of the file are short. -/
theorem signatureTokens_le {f : FileRow} (y : Symbol) (name : String) (budget : Nat)
    (hshort : ∀ z ∈ f.symbols, ∀ text ∈ z.signature, text.length ≤ Extract.maxSignature) :
    (contextOf f y name budget).data.signatureTokens ≤
      100 * (contextOf f y name budget).data.callees.length := by
  refine total_map_le ?_
  intro c hc
  obtain ⟨z, hfirst, hcallee⟩ := callees_contextOf f y name budget c hc
  rw [hcallee, CalledFunction.signatureTokens]
  cases hsignature : z.signature with
  | none => exact Nat.zero_le _
  | some text => exact cost_le_of_short (hshort z hfirst.mem text hsignature)

/-- What the context of a symbol costs when it is measured, in a store whose files have been read by
the rules and by language models: it differs from what is spent by what the signatures cost and by
their flat price.  So it fits the budget if and only if the signatures fit their price and what is
left, and it always does if the rules have read the file. -/
theorem contextQuery_measured {ops : List Store.Operation}
    (hops : ∀ o ∈ ops, o.Writes Store.FileWrite.Extracted) {repo : RepoId} {path name : String}
    {budget : Nat} {e : Envelope SymbolContext}
    (h : contextQuery (Store.after ops) repo path name budget = .ok e) :
    e.data.measured + 100 * e.data.callees.length = e.totalTokens + e.data.signatureTokens ∧
      (e.data.measured ≤ budget ↔
        e.data.signatureTokens ≤ 100 * e.data.callees.length + (budget - e.totalTokens)) ∧
      ∃ row f, (Store.after ops).getRepo repo = .ok (some row) ∧
        (Store.after ops).file? row.id path = some f ∧
        (f.extractor = Extract.byRules.tag ∨ f.extractor = Extract.Model.extractor.tag) ∧
        (f.extractor = Extract.byRules.tag → e.data.measured ≤ budget) := by
  obtain ⟨row, f, y, hrow, hfile, -, rfl⟩ := contextQuery_cases h
  have hrows : (Store.after ops).AllRows FileRow.Extracted :=
    Store.AllRows.after (fun x hx => hx.row) hops
  obtain ⟨-, htagged, hshort⟩ := hrows.file? hfile
  have hspent := totalTokens_contextOf f y name budget
  have hbound := totalTokens_contextOf_le f y name budget
  have hprice (hrules : f.extractor = Extract.byRules.tag) :=
    signatureTokens_le y name budget (hshort hrules)
  generalize contextOf f y name budget = e at hspent hbound hprice ⊢
  have hmeasured : e.data.measured + 100 * e.data.callees.length =
      e.totalTokens + e.data.signatureTokens := by
    rw [SymbolContext.measured, hspent]
    omega
  refine ⟨hmeasured, by omega, row, f, hrow, hfile, htagged, ?_⟩
  intro hrules
  have hsignatures := hprice hrules
  omega

/-! ## A file with a call -/

/-- A file with a function and another one that it calls. -/
def calling : Remote.File :=
  ⟨"def f(): g()\ndef g(): 0", "v1"⟩

/-- Requests that store this file as one extractor reads it. -/
def readBy (y : Sync.SymbolSource) : List Store.Operation :=
  [.insertRepo ⟨"octo", "widgets"⟩ {}, .writeFile 1 (y.writeOf "a.py" calling) ⟨0⟩ false]

/-- The row of the file, with the signatures that are found. -/
def callingRow (tag : String) (signature called : Option String) : FileRow :=
  { id := 1, path := "a.py", content := "def f(): g()\ndef g(): 0", language := "python"
    lineCount := 2, tokens := 6, contentId := "v1", extractor := tag, updatedAt := ⟨0⟩
    symbols := [⟨"f", .function, 1, 1, signature, 3, none⟩,
      ⟨"g", .function, 2, 2, called, 3, none⟩] }

/-- The context of the function, for three tokens of source and the flat hundred. -/
def callingContext (called : Option String) : Envelope SymbolContext :=
  { data := ⟨⟨"f", .function, "def f(): g()", 1, 1⟩, [], [⟨"g", "a.py", called⟩]⟩
    totalTokens := 103
    truncated := false
    hint := none }

theorem writes_readBy {y : Sync.SymbolSource} (hy : y.Configured) :
    ∀ o ∈ readBy y, o.Writes Store.FileWrite.Extracted := by
  intro o ho
  rw [readBy, List.mem_cons, List.mem_singleton] at ho
  obtain rfl | rfl := ho
  · trivial
  · exact ⟨y, "a.py", calling, hy, rfl⟩

theorem contextOf_callingRow (tag : String) (signature called : Option String) :
    contextOf (callingRow tag signature called) ⟨"f", .function, 1, 1, signature, 3, none⟩ "f"
      103 = callingContext called := by
  have hsource : linesOf (callingRow tag signature called) 1 1 = "def f(): g()".toList := by cbv
  have hcost : Token.estimate "def f(): g()".toList = 3 := by cbv
  have htypes : referencedTypeNames "def f(): g()" "f" = [] := by cbv
  have hcallees : calleeNames "def f(): g()" "f" = ["g"] := by cbv
  have hcallee : resolveCallee (callingRow tag signature called) "g" =
      some (100, ⟨"g", "a.py", called⟩) := by
    cbv
  simp only [contextOf, fillSurely, Allocator.takePrimary, hsource, hcost, String.ofList_toList,
    htypes, hcallees]
  simp [Allocator.fillTier, neverFails, hcallee, Allocator.offer, Allocator.remaining,
    Allocator.charge, Tier.floor, Allocator.finish, callingContext]

theorem measured_callingContext (text : String) :
    (callingContext (some text)).data.measured = 3 + Token.cost text := by
  have hsource : Token.cost "def f(): g()" = 3 := by cbv
  simp [SymbolContext.measured, SymbolContext.signatureTokens, CalledFunction.signatureTokens,
    callingContext, hsource, total]

section ReadBy

variable {y : Sync.SymbolSource} {signature called : Option String}
  (hfound : y.extract calling.content "python" =
    [⟨"f", .function, 1, 1, signature, none⟩, ⟨"g", .function, 2, 2, called, none⟩])

include hfound

theorem repos_after_readBy : (Store.after (readBy y)).repos =
    [⟨⟨1, "octo", "widgets", none, none, none, none⟩,
      [callingRow y.id.tag signature called]⟩] := by
  have hlanguage : Language.ofPath "a.py" = "python" := by cbv
  have hwrite : y.writeOf "a.py" calling =
      { path := "a.py", content := "def f(): g()\ndef g(): 0", contentId := "v1"
        extractor := y.id.tag
        symbols := [⟨"f", .function, 1, 1, signature, none⟩,
          ⟨"g", .function, 2, 2, called, none⟩] } := by
    rw [Sync.SymbolSource.writeOf, hlanguage, hfound]
    rfl
  rw [readBy, hwrite, callingRow]
  cbv

theorem getRepo_after_readBy : (Store.after (readBy y)).getRepo ⟨"octo", "widgets"⟩ =
    .ok (some ⟨1, "octo", "widgets", none, none, none, none⟩) := by
  simp only [Store.getRepo, Store.entryNamed?, repos_after_readBy hfound]
  rfl

theorem file?_after_readBy : (Store.after (readBy y)).file? 1 "a.py" =
    some (callingRow y.id.tag signature called) := by
  simp only [Store.file?, Store.files, Store.entry?, repos_after_readBy hfound]
  rfl

theorem contextQuery_readBy :
    contextQuery (Store.after (readBy y)) ⟨"octo", "widgets"⟩ "a.py" "f" 103 =
      .ok (callingContext called) := by
  have hsymbol : Store.findSymbol (callingRow y.id.tag signature called) "f" [] =
      some ⟨"f", .function, 1, 1, signature, 3, none⟩ := by
    cbv
  simp only [contextQuery, requireRepo, getRepo_after_readBy hfound, requireFile,
    file?_after_readBy hfound, hsymbol, contextOf_callingRow]

end ReadBy

theorem contextQuery_measured_byRules :
    (∀ o ∈ readBy .byRules, o.Writes Store.FileWrite.Extracted) ∧
      contextQuery (Store.after (readBy .byRules)) ⟨"octo", "widgets"⟩ "a.py" "f" 103 =
        .ok (callingContext (some "def g(")) ∧
      (callingContext (some "def g(")).data.measured = 5 ∧
      (callingContext (some "def g(")).data.measured ≤ 103 := by
  have hops := writes_readBy (y := .byRules) ⟨{}, fun _ => none, rfl⟩
  have hfound : Sync.SymbolSource.byRules.extract calling.content "python" =
      [⟨"f", .function, 1, 1, some "def f(", none⟩,
        ⟨"g", .function, 2, 2, some "def g(", none⟩] := by
    cbv
  have hanswer := contextQuery_readBy hfound
  obtain ⟨-, -, row, f, hrow, hfile, -, hfits⟩ := contextQuery_measured hops hanswer
  rw [getRepo_after_readBy hfound] at hrow
  cases hrow
  rw [file?_after_readBy hfound] at hfile
  cases hfile
  exact ⟨hops, hanswer, measured_callingContext _, hfits rfl⟩

/-! ## A language model that talks -/

/-- A signature of a hundred and one tokens. -/
def longSignature : List Char :=
  List.replicate 404 'x'

/-- What a language model may reply about the file. -/
def longReply : List Char :=
  "\x7b\"symbols\":[\x7b\"name\":\"f\",\"kind\":\"function\",\"startLine\":1\x7d,".toList ++
    "\x7b\"name\":\"g\",\"kind\":\"function\",\"startLine\":2,\"signature\":\"".toList ++
    longSignature ++ "\"\x7d]\x7d".toList

/-- That reply as it comes from the server. -/
def longBody : List Char :=
  "\x7b\"choices\":[\x7b\"message\":\x7b\"content\":\"".toList ++
    "\x7b\\\"symbols\\\":[\x7b\\\"name\\\":\\\"f\\\",\\\"kind\\\":\\\"function\\\",".toList ++
    "\\\"startLine\\\":1\x7d,\x7b\\\"name\\\":\\\"g\\\",\\\"kind\\\":\\\"function\\\",".toList ++
    "\\\"startLine\\\":2,\\\"signature\\\":\\\"".toList ++ longSignature ++
    "\\\"\x7d]\x7d\"\x7d\x7d]\x7d".toList

/-- How the model is reached. -/
def modelAccess : Extract.Model.Access :=
  ⟨"https://api.openai.com/v1/chat/completions", "k", "gpt-4o-mini"⟩

/-- A language model that replies this to everything. -/
def talkative : Sync.SymbolSource :=
  ⟨Extract.Model.extractor,
    Extract.Model.declarations (fun _ => some ⟨200, String.ofList longBody⟩) modelAccess⟩

theorem talkative_configured : talkative.Configured :=
  ⟨{ extractor := .model, model := { key := some "k" } }, _, rfl⟩

-- the texts are evaluated character by character, and each character is a level of recursion
set_option maxRecDepth 20000 in
theorem completion?_longBody :
    (Json.parseChars? longBody).bind Extract.Model.completion? =
      some (String.ofList longReply) := by
  cbv

set_option maxRecDepth 20000 in
theorem declarationsIn_longReply : Extract.Model.declarationsIn longReply =
    [⟨"f", .function, 1, 1, none, none⟩,
      ⟨"g", .function, 2, 2, some (String.ofList longSignature), none⟩] := by
  cbv

theorem complete?_of_body {body : List Char} {reply : String}
    (h : (Json.parseChars? body).bind Extract.Model.completion? = some reply)
    (request : Http.Request) :
    Extract.Model.complete? (fun _ => some ⟨200, String.ofList body⟩) request = some reply := by
  simp only [Extract.Model.complete?, Option.bind_eq_bind, Option.bind_some, Json.parse?,
    String.toList_ofList]
  exact h

theorem settle_calling (called : Option String) :
    Extract.settle [⟨"f", .function, 1, 1, none, none⟩, ⟨"g", .function, 2, 2, called, none⟩] 2 =
      [⟨"f", .function, 1, 1, none, none⟩, ⟨"g", .function, 2, 2, called, none⟩] := by
  cbv

theorem extract_talkative : talkative.extract calling.content "python" =
    [⟨"f", .function, 1, 1, none, none⟩,
      ⟨"g", .function, 2, 2, some (String.ofList longSignature), none⟩] := by
  have hasked : (Extract.Model.request? modelAccess calling.content "python").isSome := by
    decide +kernel
  obtain ⟨request, hrequest⟩ := Option.isSome_iff_exists.mp hasked
  have hraw : Extract.Model.rawDeclarations (fun _ => some ⟨200, String.ofList longBody⟩)
      modelAccess calling.content "python" =
        [⟨"f", .function, 1, 1, none, none⟩,
          ⟨"g", .function, 2, 2, some (String.ofList longSignature), none⟩] := by
    rw [Extract.Model.rawDeclarations, hrequest, Option.bind_some,
      complete?_of_body completion?_longBody]
    simp only [String.toList_ofList, declarationsIn_longReply]
  have hlines : Text.countLines calling.content.toList = 2 := by decide +kernel
  show Extract.Model.declarations _ _ _ _ = _
  rw [Extract.Model.declarations, hraw, hlines]
  exact settle_calling _

/-- A context that has spent its budget exactly and costs more when it is measured. -/
theorem contextQuery_over_budget :
    ∃ ops e, (∀ o ∈ ops, o.Writes Store.FileWrite.Extracted) ∧
      contextQuery (Store.after ops) ⟨"octo", "widgets"⟩ "a.py" "f" 103 = .ok e ∧
      e.data.measured = 104 ∧ ¬ e.data.measured ≤ 103 := by
  have hmeasured :
      (callingContext (some (String.ofList longSignature))).data.measured = 104 := by
    rw [measured_callingContext, Token.cost_ofList, Token.estimate, longSignature,
      List.length_replicate]
    rfl
  refine ⟨readBy talkative, callingContext (some (String.ofList longSignature)),
    writes_readBy talkative_configured, contextQuery_readBy extract_talkative, hmeasured, ?_⟩
  rw [hmeasured]
  decide

end Query

end ContextIndex
