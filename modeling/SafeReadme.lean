import SafeReadme.Command.Run
import SafeReadme.Main
import SafeReadme.Proofs.Policy.Built
import SafeReadme.Proofs.Policy.Spelling
import SafeReadme.Proofs.Policy.WellFormed
import SafeReadme.Proofs.Html.Elements
import SafeReadme.Proofs.Sanitize.Walk
import SafeReadme.Proofs.Sanitize.Allowlist
import SafeReadme.Proofs.Sanitize.Accounting
import SafeReadme.Proofs.Url.Address
import SafeReadme.Proofs.Url.Percent
import SafeReadme.Proofs.Url.Decoding
import SafeReadme.Proofs.Url.Encoding
import SafeReadme.Proofs.Url.Reference
import SafeReadme.Proofs.Repository.RawUrl
import SafeReadme.Proofs.Repository.Walk
import SafeReadme.Proofs.Repository.Containment
import SafeReadme.Proofs.Repository.Outcome
import SafeReadme.Proofs.Repository.BasePath
import SafeReadme.Proofs.Repository.Reference
import SafeReadme.Proofs.Repository.JoinedPath
import SafeReadme.Proofs.Repository.Reread
import SafeReadme.Proofs.Sanitize.UrlFilter
import SafeReadme.Proofs.Sanitize.Settled
import SafeReadme.Proofs.Sanitize.RepositoryUse
import SafeReadme.Proofs.Sanitize.SchemeGate
import SafeReadme.Proofs.Sanitize.Omission
import SafeReadme.Proofs.Html.LineBreaks
import SafeReadme.Proofs.Html.Tokens
import SafeReadme.Proofs.Html.Tree.Edit
import SafeReadme.Proofs.Html.Tree.Formatting
import SafeReadme.Proofs.Html.Tree.Rules
import SafeReadme.Proofs.Html.Tree.Run
import SafeReadme.Proofs.Html.Tree.Within
import SafeReadme.Proofs.Html.Tree.Void
import SafeReadme.Proofs.Html.Shown
import SafeReadme.Proofs.Html.Reread
import SafeReadme.Proofs.Html.StrictReadBack
import SafeReadme.Proofs.Html.Delimiters
import SafeReadme.Proofs.Sanitize.RereadUrl
import SafeReadme.Proofs.Sanitize.Reparse
import SafeReadme.Proofs.Config.Overrides
import SafeReadme.Proofs.Sanitize.ReadBack
import SafeReadme.Proofs.Page.Present
import SafeReadme.Proofs.Policy.Equality
import SafeReadme.Proofs.Policy.Grants
import SafeReadme.Proofs.Config.Description
import SafeReadme.Proofs.Config.LetterCase
import SafeReadme.Proofs.Html.Tree.AttributeNames
import SafeReadme.Proofs.Sanitize.GrantedNames
import SafeReadme.Proofs.Html.Tree.Insert
import SafeReadme.Proofs.Html.Tree.Nesting
import SafeReadme.Proofs.Html.TextBlocks
import SafeReadme.Proofs.Markdown.Word
import SafeReadme.Proofs.Renderer
import SafeReadme.Proofs.Command.Override
import SafeReadme.Proofs.Sanitize.Resolving
import SafeReadme.Proofs.Page.Paths
import SafeReadme.Proofs.Command.HostAlone
