import Abacus.Proofs.Literal

/-!
# The grammar of lines

A line is an expression, and an expression is derived from the loosest of
nine levels. Each level but the tightest adds the operators of one
precedence class to the level that is next tighter:

* an assignment is `cond = assign`, and groups to the right;
* a choice is `equality ? assign : cond`, and groups to the right;
* comparisons, sums and products are chains that group to the left;
* a sign or a step before an operand is followed by another such operand;
* a step after an operand follows one that may already have such a step;
* what is left is a number, a name, or a group in parentheses.

`Derives l e` says that the tree `e` is derived from the level `l`. A tree
keeps every token of the line it is read from, parentheses and all, so that
the line can be read off it (`Tree.tokens`). What it means is an expression
without tokens (`Tree.expr`), in which a group is what it encloses; and the
order in which an expression is carried out is its postorder
(`Expr.postorder`).

The operators of each level are written down here once more
(`Level.operator?`), by the place where they stand in the grammar, and not
taken from the tables that the parser consults. That the two agree is part
of what there is to prove.
-/

namespace Abacus

/-! ## Expressions -/

/-- **Expressions**: an operand, or an operation on as many expressions as it
takes operands. -/
inductive Expr
  | operand (x : Operand)
  | unary (op : Operation) (h : op.arity = 1) (a : Expr)
  | binary (op : Operation) (h : op.arity = 2) (a b : Expr)
  | ternary (op : Operation) (h : op.arity = 3) (a b c : Expr)

/-- The instructions that carry an expression out: those of its operands,
from left to right, and then its operation. -/
def Expr.postorder : Expr → List Instruction
  | .operand x => [.push x]
  | .unary op _ a => a.postorder ++ [.apply op]
  | .binary op _ a b => a.postorder ++ b.postorder ++ [.apply op]
  | .ternary op _ a b c =>
    a.postorder ++ b.postorder ++ c.postorder ++ [.apply op]

/-! ## Derivation trees -/

/-- **Derivation trees.** The leaves are the tokens of a line, the nodes the
forms that an expression can have. The steps from one level to the next
tighter one leave no trace. -/
inductive Tree
  | number (t : Token)
  | name (t : Token)
  | group (l : Token) (e : Tree) (r : Token)
  | after (e : Tree) (t : Token) (op : Operation) (h : op.arity = 1)
  | before (t : Token) (op : Operation) (h : op.arity = 1) (e : Tree)
  | between (a : Tree) (t : Token) (op : Operation) (h : op.arity = 2)
      (b : Tree)
  | choose (c : Tree) (q : Token) (a : Tree) (k : Token) (b : Tree)

namespace Tree

/-- The tokens of a tree, from left to right. -/
def tokens : Tree → List Token
  | .number t | .name t => [t]
  | .group l e r => l :: e.tokens ++ [r]
  | .after e t _ _ => e.tokens ++ [t]
  | .before t _ _ e => t :: e.tokens
  | .between a t _ _ b => a.tokens ++ t :: b.tokens
  | .choose c q a k b => c.tokens ++ q :: a.tokens ++ k :: b.tokens

theorem tokens_ne_nil (e : Tree) : e.tokens ≠ [] := by
  cases e <;> simp [tokens]

/-- What a tree means. Parentheses mean nothing of their own. -/
def expr : Tree → Expr
  | .number t => .operand (.literal (Literal.decimal t.text))
  | .name t => .operand (.name t.text)
  | .group _ e _ => e.expr
  | .after e _ op h | .before _ op h e => .unary op h e.expr
  | .between a _ op h b => .binary op h a.expr b.expr
  | .choose c _ a _ b => .ternary .choose rfl c.expr a.expr b.expr

/-- A tree with other tokens. -/
def map (f : Token → Token) : Tree → Tree
  | .number t => .number (f t)
  | .name t => .name (f t)
  | .group l e r => .group (f l) (e.map f) (f r)
  | .after e t op h => .after (e.map f) (f t) op h
  | .before t op h e => .before (f t) op h (e.map f)
  | .between a t op h b => .between (a.map f) (f t) op h (b.map f)
  | .choose c q a k b => .choose (c.map f) (f q) (a.map f) (f k) (b.map f)

theorem tokens_map (f : Token → Token) (e : Tree) :
    (e.map f).tokens = e.tokens.map f := by
  induction e <;> simp [map, tokens, *]

/-- What a tree means depends on the texts of its tokens only. -/
theorem expr_map {f : Token → Token} (hf : ∀ t, (f t).text = t.text) (e : Tree) :
    (e.map f).expr = e.expr := by
  induction e <;> simp [map, expr, *]

end Tree

/-! ## Levels -/

/-- The levels of the grammar, tightest first. -/
inductive Level
  | primary
  | stepped
  | unary
  | multiplicative
  | additive
  | relational
  | equality
  | conditional
  | assignment
  deriving DecidableEq

namespace Level

/-- The place of a level in the order from tightest to loosest. -/
def height : Level → Nat
  | .primary => 0
  | .stepped => 1
  | .unary => 2
  | .multiplicative => 3
  | .additive => 4
  | .relational => 5
  | .equality => 6
  | .conditional => 7
  | .assignment => 8

instance : LE Level := ⟨fun l m => l.height ≤ m.height⟩

instance (l m : Level) : Decidable (l ≤ m) :=
  inferInstanceAs (Decidable (l.height ≤ m.height))

/-- The level that is next tighter. -/
def tighter? : Level → Option Level
  | .primary => none
  | .stepped => some .primary
  | .unary => some .stepped
  | .multiplicative => some .unary
  | .additive => some .multiplicative
  | .relational => some .additive
  | .equality => some .relational
  | .conditional => some .equality
  | .assignment => some .conditional

/-- The levels whose operators stand between two operands and group to the
left. -/
def IsChain : Level → Prop
  | .multiplicative | .additive | .relational | .equality => True
  | _ => False

/-- The operators of each level, by the kind of their token. -/
def operator? : Level → Token.Kind → Option Operation
  | .stepped, .increment => some (.stepAfter .up)
  | .stepped, .decrement => some (.stepAfter .down)
  | .unary, .minus => some .negate
  | .unary, .increment => some (.stepBefore .up)
  | .unary, .decrement => some (.stepBefore .down)
  | .multiplicative, .star => some (.arithmetic .mul)
  | .multiplicative, .slash => some (.arithmetic .div)
  | .additive, .plus => some (.arithmetic .add)
  | .additive, .minus => some (.arithmetic .sub)
  | .relational, .greater => some (.compare .gt)
  | .relational, .greaterEqual => some (.compare .ge)
  | .relational, .less => some (.compare .lt)
  | .relational, .lessEqual => some (.compare .le)
  | .equality, .equal => some (.compare .eq)
  | .equality, .notEqual => some (.compare .ne)
  | .assignment, .assign => some .assign
  | .assignment, .plusAssign => some (.assignWith .add)
  | .assignment, .minusAssign => some (.assignWith .sub)
  | .assignment, .starAssign => some (.assignWith .mul)
  | .assignment, .slashAssign => some (.assignWith .div)
  | _, _ => none

theorem height_injective {l m : Level} (h : l.height = m.height) : l = m := by
  cases l <;> cases m <;> first | rfl | exact absurd h (by decide)

theorem exists_tighter {l : Level} {n : Nat} (h : l.height = n + 1) :
    ∃ m, l.tighter? = some m ∧ m.height = n := by
  cases l with
  | primary => exact absurd h.symm (Nat.succ_ne_zero n)
  | _ => exact ⟨_, rfl, Nat.succ.inj h⟩

end Level

/-! ## Derivations -/

/-- **The grammar.** `Derives l e` says that the tree `e` is derived from the
level `l`. -/
inductive Derives : Level → Tree → Prop
  | number {t : Token} : t.kind = .number → Derives .primary (.number t)
  | name {t : Token} : t.kind = .name → Derives .primary (.name t)
  | group {l r : Token} {e : Tree} :
      l.kind = .openParen → Derives .assignment e → r.kind = .closeParen →
      Derives .primary (.group l e r)
  | after {e : Tree} {t : Token} {op : Operation} {h : op.arity = 1} :
      Derives .stepped e → Level.stepped.operator? t.kind = some op →
      Derives .stepped (.after e t op h)
  | before {e : Tree} {t : Token} {op : Operation} {h : op.arity = 1} :
      Level.unary.operator? t.kind = some op → Derives .unary e →
      Derives .unary (.before t op h e)
  | chain {l m : Level} {a b : Tree} {t : Token} {op : Operation}
      {h : op.arity = 2} :
      l.IsChain → l.tighter? = some m →
      Derives l a → l.operator? t.kind = some op → Derives m b →
      Derives l (.between a t op h b)
  | choose {c a b : Tree} {q k : Token} :
      Derives .equality c → q.kind = .question → Derives .assignment a →
      k.kind = .colon → Derives .conditional b →
      Derives .conditional (.choose c q a k b)
  | assign {a b : Tree} {t : Token} {op : Operation} {h : op.arity = 2} :
      Derives .conditional a → Level.assignment.operator? t.kind = some op →
      Derives .assignment b → Derives .assignment (.between a t op h b)
  | tighter {l m : Level} {e : Tree} :
      l.tighter? = some m → Derives m e → Derives l e

/-- A tree of a tighter level is one of every looser level. -/
theorem Derives.mono {l m : Level} {e : Tree} (hlm : l ≤ m)
    (h : Derives l e) : Derives m e := by
  induction n : m.height generalizing m with
  | zero =>
    have hl : l.height = m.height := by
      have : l.height ≤ m.height := hlm
      omega
    exact Level.height_injective hl ▸ h
  | succ n ih =>
    by_cases heq : l.height = m.height
    · exact Level.height_injective heq ▸ h
    · obtain ⟨m', hm', hn⟩ := Level.exists_tighter n
      refine .tighter hm' (ih ?_ hn)
      show l.height ≤ m'.height
      have : l.height ≤ m.height := hlm
      omega

/-- The grammar asks for the kinds of tokens, and not for their texts. -/
theorem Derives.map {f : Token → Token} (hf : ∀ t, (f t).kind = t.kind)
    {l : Level} {e : Tree} (h : Derives l e) : Derives l (e.map f) := by
  induction h with
  | number hk => exact .number ((hf _).trans hk)
  | name hk => exact .name ((hf _).trans hk)
  | group hl _ hr ih => exact .group ((hf _).trans hl) ih ((hf _).trans hr)
  | after _ ht ih =>
    rw [← hf] at ht
    exact .after ih ht
  | before ht _ ih =>
    rw [← hf] at ht
    exact .before ht ih
  | chain hl hm _ ht _ iha ihb =>
    rw [← hf] at ht
    exact .chain hl hm iha ht ihb
  | choose _ hq _ hk _ ihc iha ihb =>
    exact .choose ihc ((hf _).trans hq) iha ((hf _).trans hk) ihb
  | assign _ ht _ iha ihb =>
    rw [← hf] at ht
    exact .assign iha ht ihb
  | tighter hm _ ih => exact .tighter hm ih

end Abacus
