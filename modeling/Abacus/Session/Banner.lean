/-!
# The banner

The summary of the language that a session may begin with.
-/

namespace Abacus.Session

/-- The lines of the banner. -/
def bannerLines : List String := [
  "Operator-precedence expression evaluator. Supported lexemes and operations:",
  "",
  "- Numbers               One or more '0'-'9' characters. Limited to 32-bit integer values.",
  "- Variables             One or more 'a'-'z' and '_' characters.",
  "- Grouping              ((x + y) * z)",
  "- Prefix operations     -x, --x, ++x",
  "- Postfix operations    x++, x--",
  "- Multiplicative        x * y, x / y",
  "- Additive              x + y, x - y",
  "- Relational            x > y, x < y, x >= y, x <= y",
  "- Equality              x == y, x != y",
  "- Conditional           x ? y : z. A positive condition selects y.",
  "- Assignment            x = y, x += y, x -= y, x *= y, x /= y"]

/-- The banner, each line of it ended. -/
def banner : String :=
  String.join (bannerLines.map (· ++ "\n"))

end Abacus.Session
