import RoutePattern.Catalogue
import RoutePattern.Journal
import RoutePattern.Main
import RoutePattern.Proofs.Delimiter
import RoutePattern.Proofs.QueryText
import RoutePattern.Proofs.Matching.Ends
import RoutePattern.Proofs.Matching.Repetition
import RoutePattern.Proofs.Reading.Source
import RoutePattern.Proofs.Segments.Item
import RoutePattern.Proofs.Segments.Program
import RoutePattern.Proofs.Matching.Expression
import RoutePattern.Proofs.Segments.Ends
import RoutePattern.Proofs.Segments.Matching
import RoutePattern.Proofs.Segments.Choice
import RoutePattern.Proofs.Segments.Blocks
import RoutePattern.Proofs.Segments.Acceptance
import RoutePattern.Proofs.Component
import RoutePattern.Proofs.Numeral
import RoutePattern.Proofs.RoundTrip.Written
import RoutePattern.Proofs.RoundTrip.Found
import RoutePattern.Proofs.RoundTrip.Resolved
import RoutePattern.Proofs.Reading.Moves
import RoutePattern.Proofs.Reading.Enclosed
import RoutePattern.Proofs.Groups.Places
import RoutePattern.Proofs.Groups.Row
import RoutePattern.Proofs.Groups.Tokens
import RoutePattern.Proofs.Groups.Compiled
import RoutePattern.Proofs.Matching.Carried
import RoutePattern.Proofs.Matching.Steady
import RoutePattern.Proofs.Groups.Alignment
import RoutePattern.Proofs.NormalPath
import RoutePattern.Proofs.Guarded
import RoutePattern.Proofs.RoundTrip.Query
import RoutePattern.Proofs.Reading.Ground
import RoutePattern.Proofs.Matching.Comparison.Matcher
import RoutePattern.Proofs.Matching.Comparison.Repetition
import RoutePattern.Proofs.Matching.Comparison.Expression
import RoutePattern.Proofs.Extent.Stop
import RoutePattern.Proofs.Reading.Endings.Cursor
import RoutePattern.Proofs.Reading.Endings.Set
import RoutePattern.Proofs.Reading.Endings.Group
import RoutePattern.Proofs.Reading.Endings.Token
import RoutePattern.Proofs.Reading.Endings.Run
import RoutePattern.Proofs.Matching.Comparison.Alternation
import RoutePattern.Proofs.Loosening.Closing
import RoutePattern.Proofs.Loosening.Routed
import RoutePattern.Proofs.Loosening.Loosened
import RoutePattern.Proofs.LowerCase
import RoutePattern.Proofs.Url.Parts
import RoutePattern.Proofs.Url.Record
import RoutePattern.Proofs.Url.Href
import RoutePattern.Proofs.Url.Pairs
import RoutePattern.Proofs.Decoder
import RoutePattern.Proofs.Url.Delimited
import RoutePattern.Proofs.Url.Protected
import RoutePattern.Proofs.Url.Canonical
import RoutePattern.Proofs.Url.Rooted
import RoutePattern.Proofs.Segments.Singles
import RoutePattern.Proofs.RoundTrip.Canonical
import RoutePattern.Proofs.Matching.Carried.Repetition
import RoutePattern.Proofs.Reading.EachGroup
import RoutePattern.Proofs.Reading.Opening
import RoutePattern.Proofs.Matching.Upheld
import RoutePattern.Proofs.Groups.Segment
import RoutePattern.Proofs.Reading.Oversized
import RoutePattern.Proofs.Reading.Answers
import RoutePattern.Proofs.Reading.Faults
import RoutePattern.Proofs.Malformed
import RoutePattern.Proofs.Repeated
import RoutePattern.Proofs.Extent.Unreachable
import RoutePattern.Proofs.Language.Taken
import RoutePattern.Proofs.Conversion
import RoutePattern.Proofs.CharacterName
import RoutePattern.Proofs.Reading.LexedToken
import RoutePattern.Proofs.Reading.LexedRun
import RoutePattern.Proofs.Language.Passing
import RoutePattern.Proofs.OwnRegex
import RoutePattern.Proofs.Matching.Blind
import RoutePattern.Proofs.Matching.Stops
import RoutePattern.Proofs.Matching.Powers
import RoutePattern.Proofs.Matching.ExprStops
import RoutePattern.Proofs.Matching.Agreement
import RoutePattern.Proofs.Matching.Branches
import RoutePattern.Proofs.Matching.Ungrouped
import RoutePattern.Proofs.Reading.Parts
import RoutePattern.Proofs.Reading.Ungrouping
import RoutePattern.Proofs.NonCapturing
import RoutePattern.Proofs.RoundTrip.Root
import RoutePattern.Proofs.RoundTrip.Listed
import RoutePattern.Proofs.Between.Program
import RoutePattern.Proofs.Between.Matching
import RoutePattern.Proofs.RoundTrip.Embedded
import RoutePattern.Proofs.RoundTrip.Path
import RoutePattern.Proofs.Escaped
import RoutePattern.Proofs.Merged
import RoutePattern.Proofs.Url.Rendered
import RoutePattern.Proofs.Sensitivity
import RoutePattern.Proofs.Url.Appended
import RoutePattern.Proofs.RoundTrip.Fragment
import RoutePattern.Proofs.Scanner.Marking
