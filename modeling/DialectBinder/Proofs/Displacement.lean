import DialectBinder.Proofs.LookupShape

/-! What free functions displace. Where they stand next to other static methods they displace
nothing else; but where they are as many as the symbols that the walk found, they take the place of
symbols of any sort. -/

namespace DialectBinder

theorem SymbolArena.isMethod_of_isStaticMethod {arena : SymbolArena} {id : SymbolId}
    (static : arena.isStaticMethod id = true) : arena.isMethod id = true := by
  obtain ⟨symbol, found, isStatic⟩ := SymbolArena.satisfies_iff.mp static
  exact SymbolArena.satisfies_iff.mpr ⟨symbol, found, (Bool.and_eq_true_iff.mp isStatic).1⟩

namespace LookupContext

variable (context : LookupContext) (request : LookupRequest)

/-- The symbols that the walk found and the result does not hold. -/
def displaced : List SymbolId :=
  (context.walked request).symbols.filter fun id => !(context.search request).result.contains id

/-- Free functions take the place of as many other symbols. -/
structure FunctionsSwap : Prop where
  preferred : context.options.dialect.prefersFreeFunctions = true
  present : context.freeFunctions request ≠ []
  equal : (context.freeFunctions request).length = (context.walked request).symbols.length
  disjoint : ∀ id ∈ context.freeFunctions request, id ∉ (context.walked request).symbols

/-- Free functions stand out among the static methods that were found with them. -/
structure FunctionsStandOut : Prop where
  preferred : context.options.dialect.prefersFreeFunctions = true
  present : context.freeFunctions request ≠ []
  fewer : (context.freeFunctions request).length < (context.walked request).symbols.length
  held : ∀ id ∈ context.freeFunctions request, id ∈ (context.walked request).symbols
  statics : ∀ id ∈ (context.walked request).symbols,
    id ∈ context.freeFunctions request ∨ context.symbols.isStaticMethod id = true

variable {context request}

theorem functionsDisplace_iff :
    context.functionsDisplace (context.walked request) (context.freeFunctions request) = true ↔
      context.FunctionsSwap request ∨ context.FunctionsStandOut request := by
  simp only [functionsDisplace, LookupResult.contains, Bool.and_eq_true, Bool.or_eq_true,
    Bool.not_eq_true',
    beq_iff_eq, decide_eq_true_eq, List.isEmpty_eq_false_iff, List.any_eq_false, List.all_eq_true,
    List.contains_iff_mem]
  constructor
  · rintro ⟨⟨present, preferred⟩, ⟨equal, disjoint⟩ | ⟨⟨fewer, held⟩, statics⟩⟩
    · exact .inl ⟨preferred, present, equal, disjoint⟩
    · exact .inr ⟨preferred, present, fewer, held, statics⟩
  · rintro (swap | standOut)
    · exact ⟨⟨swap.present, swap.preferred⟩, .inl ⟨swap.equal, swap.disjoint⟩⟩
    · exact ⟨⟨standOut.present, standOut.preferred⟩,
        .inr ⟨⟨standOut.fewer, standOut.held⟩, standOut.statics⟩⟩

theorem search_of_displaced
    (replaced : context.FunctionsSwap request ∨ context.FunctionsStandOut request) :
    (context.search request).result = .ofViable context.symbols (context.freeFunctions request) :=
  if_pos (functionsDisplace_iff.mpr replaced)

/-- A symbol of the walk is lost exactly if free functions displace it and it is none of them. -/
theorem mem_displaced_iff {id : SymbolId} :
    id ∈ context.displaced request ↔
      (context.FunctionsSwap request ∨ context.FunctionsStandOut request) ∧
        id ∈ (context.walked request).symbols ∧ id ∉ context.freeFunctions request := by
  simp only [displaced, LookupResult.contains, List.mem_filter, Bool.not_eq_true',
    List.contains_eq_mem, decide_eq_false_iff_not]
  by_cases replaced : context.FunctionsSwap request ∨ context.FunctionsStandOut request
  · rw [search_of_displaced replaced, LookupResult.ofViable_symbols]
    simp only [replaced, true_and]
  · have kept : (context.search request).result = context.walked request :=
      if_neg (mt functionsDisplace_iff.mp replaced)
    rw [kept]
    constructor
    · intro lost
      exact absurd lost.1 lost.2
    · intro lost
      exact absurd lost.1 replaced

theorem FunctionsSwap.displaced_eq (swap : context.FunctionsSwap request) :
    context.displaced request = (context.walked request).symbols := by
  apply List.filter_eq_self.mpr
  intro id member
  have absent : id ∉ context.freeFunctions request :=
    fun function => swap.disjoint id function member
  rw [search_of_displaced (.inl swap), LookupResult.contains, LookupResult.ofViable_symbols]
  simpa using absent

theorem isStaticMethod_of_displaced (noSwap : ¬context.FunctionsSwap request) {id : SymbolId}
    (lost : id ∈ context.displaced request) : context.symbols.isStaticMethod id = true := by
  obtain ⟨replaced, member, absent⟩ := mem_displaced_iff.mp lost
  have standOut := replaced.resolve_left noSwap
  exact (standOut.statics id member).resolve_left absent

/-- Only methods are lost, except in a swap for symbols among which there is something else. -/
theorem displaced_methods_iff :
    (∀ id ∈ context.displaced request, context.symbols.isMethod id = true) ↔
      (context.FunctionsSwap request →
        ∀ id ∈ (context.walked request).symbols, context.symbols.isMethod id = true) := by
  constructor
  · intro methods swap
    exact swap.displaced_eq ▸ methods
  · intro unlessSwap id lost
    by_cases swap : context.FunctionsSwap request
    · exact unlessSwap swap id (swap.displaced_eq ▸ lost)
    · exact SymbolArena.isMethod_of_isStaticMethod (isStaticMethod_of_displaced swap lost)

theorem isInvocable_of_displaced (callable : request.filter.mustBeInvocable = true) {id : SymbolId}
    (lost : id ∈ context.displaced request) :
    context.symbols.satisfies (·.isInvocable) id = true := by
  obtain ⟨_, member, _⟩ := mem_displaced_iff.mp lost
  obtain ⟨symbol, found, _, admitted, _⟩ := walked_sound.answers id member
  refine SymbolArena.satisfies_iff.mpr ⟨symbol, found, ?_⟩
  simp only [LookupFilter.admits, callable, Bool.and_eq_true] at admitted
  simpa using admitted.1.1.1.1.2

variable (context request)

/-- What free functions displace. All lost symbols are methods unless functions are swapped for as
many symbols that are not all methods. A swap loses all that the walk found, whatever it is;
otherwise only static methods are lost. A request for something callable loses nothing that cannot
be called. -/
theorem displaced_characterised :
    ((∀ id ∈ context.displaced request, context.symbols.isMethod id = true) ↔
      ¬(context.FunctionsSwap request ∧
        ∃ id ∈ (context.walked request).symbols, context.symbols.isMethod id = false)) ∧
    (context.FunctionsSwap request →
      (context.search request).result = .ofViable context.symbols (context.freeFunctions request) ∧
        context.displaced request = (context.walked request).symbols) ∧
    (¬context.FunctionsSwap request →
      ∀ id ∈ context.displaced request, context.symbols.isStaticMethod id = true) ∧
    (request.filter.mustBeInvocable = true →
      ∀ id ∈ context.displaced request, context.symbols.satisfies (·.isInvocable) id = true) := by
  refine ⟨?_, ?_, ?_, ?_⟩
  · rw [displaced_methods_iff]
    simp
  · intro swap
    exact ⟨search_of_displaced (.inl swap), swap.displaced_eq⟩
  · intro noSwap id lost
    exact isStaticMethod_of_displaced noSwap lost
  · intro callable id lost
    exact isInvocable_of_displaced callable lost

/-- A block with a variable `count`, in a namespace that imports a free function and a static method
`Count`. -/
def counterContext : LookupContext where
  symbols :=
    let functions := (SymbolArena.mk #[]).alloc { name := "AppFunctions", flags := .classType }
    let function := functions.declareMember ⟨0⟩ { name := "Count", flags := .union .method .static }
    let helpers := function.alloc { name := "Helpers", flags := .classType }
    let method := helpers.declareMember ⟨2⟩ { name := "Count", flags := .union .method .static }
    method.alloc { name := "count", flags := .localVariable }
  scopes :=
    let outside := (ScopeArena.mk #[]).add .namespaceBody none none
    let imported := (outside.importStatic ⟨0⟩ ⟨0⟩).importStatic ⟨0⟩ ⟨2⟩
    (imported.add .block (some ⟨0⟩) none).declare ⟨1⟩ "count" ⟨4⟩
  options := .forDialect .vo

/-- In the namespace the function stands out, and the method of the other class is lost. -/
theorem count_stands_out :
    ¬counterContext.FunctionsSwap { name := "count", scope := ⟨0⟩ } ∧
      ⟨3⟩ ∈ counterContext.displaced { name := "count", scope := ⟨0⟩ } ∧
      counterContext.symbols.isStaticMethod ⟨3⟩ = true := by
  have noSwap : ¬counterContext.FunctionsSwap { name := "count", scope := ⟨0⟩ } := by
    intro swap
    exact absurd swap.equal (by decide)
  have lost : ⟨3⟩ ∈ counterContext.displaced { name := "count", scope := ⟨0⟩ } := by decide
  obtain ⟨_, _, statics, _⟩ :=
    displaced_characterised counterContext { name := "count", scope := ⟨0⟩ }
  exact ⟨noSwap, lost, statics noSwap ⟨3⟩ lost⟩

/-- In the block the function takes the place of the variable. -/
theorem variable_displaced_by_function :
    (counterContext.lookup { name := "count", scope := ⟨1⟩ } ⟨"", .dummy⟩ {}).1.result.symbols =
    [⟨1⟩] ∧
      counterContext.displaced { name := "count", scope := ⟨1⟩ } = [⟨4⟩] ∧
      ¬∀ id ∈ counterContext.displaced { name := "count", scope := ⟨1⟩ },
        counterContext.symbols.isMethod id = true := by
  refine ⟨by decide, by decide, by decide⟩

end LookupContext

end DialectBinder
