import StanzaLint.Text.Lowercase

/-!
# Directives

The instructions of a configuration file. Each has one canonical label; a few
have short or alternative spellings too. A label in the wrong letter case still
names its directive. Some options open a section that another one has to close
before the stanza ends.
-/

namespace StanzaLint

inductive Directive where
  | addUserHeader
  | allowIP
  | allowVars
  | anonymousURL
  | audit
  | auditPurge
  | autoLoginIP
  | autoLoginIPBanner
  | binaryTimeout
  | books24x7Site
  | byteServe
  | casServiceURL
  | chargeSetLatency
  | charset
  | clientTimeout
  | connectWindow
  | cookie
  | cookieFilter
  | dbVar
  | dbVar0
  | dbVar1
  | dbVar2
  | dbVar3
  | dbVar4
  | dbVar5
  | dbVar6
  | dbVar7
  | dbVar8
  | dbVar9
  | denyIfRequestHeader
  | description
  | dns
  | domain
  | domainJavaScript
  | eblSecret
  | ebrarySite
  | encryptVar
  | excludeIP
  | excludeIPBanner
  | extraLoginCookie
  | find
  | firstPort
  | formSelect
  | formSubmit
  | formVariable
  | gartner
  | group
  | haName
  | haPeer
  | host
  | hostJavaScript
  | httpHeader
  | httpMethod
  | identifier
  | includeFile
  | includeIP
  | interface
  | intruderIPAttempts
  | intruderLog
  | intruderUserAttempts
  | intrusionAPI
  | lbPeer
  | location
  | logFile
  | logFilter
  | logFormat
  | loginCookieDomain
  | loginCookieName
  | loginMenu
  | loginPort
  | loginPortSSL
  | logSPU
  | maxConcurrentTransfers
  | maxLifetime
  | maxSessions
  | maxVirtualHosts
  | messagesFile
  | metaFind
  | mimeFilter
  | name
  | neverProxy
  | optionAcceptXForwardedFor
  | optionAllowSendGZip
  | optionAllowWebSubdirectories
  | optionAnyDNSHostname
  | optionBlockCountryChange
  | optionCookie
  | optionCookiePassThrough
  | optionCSRFToken
  | optionDisableSSL40bit
  | optionDisableSSL56bit
  | optionDisableSSLv2
  | optionDomainCookieOnly
  | optionEbraryUnencodedTokens
  | optionExcludeIPMenu
  | optionForceHTTPSAdmin
  | optionForceHTTPSLogin
  | optionForceWildcardCertificate
  | optionHideEZproxy
  | optionHttpsHyphens
  | optionIChooseToUseDomainLinesThatThreatenTheSecurityOfMyNetwork
  | optionIgnoreWildcardCertificate
  | optionIPv6
  | optionLoginReplaceGroups
  | optionLogReferer
  | optionLogSAML
  | optionLogSession
  | optionLogSPUEdit
  | optionLogUser
  | optionMenuByGroups
  | optionMetaEZproxyRewriting
  | optionNoCookie
  | optionNoHideEZproxy
  | optionNoHttpsHyphens
  | optionNoMetaEZproxyRewriting
  | optionNoProxyFTP
  | optionNoUTF16
  | optionNoXForwardedFor
  | optionProxyByHostname
  | optionProxyFTP
  | optionRecordPeaks
  | optionRedirectUnknown
  | optionReferInHostname
  | optionRelaxedRADIUS
  | optionRequireAuthenticate
  | optionSafariCookiePatch
  | optionStatusUser
  | optionTicketIgnoreExcludeIP
  | optionUnsafeRedirectUnknown
  | optionUsernameCaretN
  | optionUTF16
  | optionXForwardedFor
  | overDriveSite
  | pdfRefresh
  | pdfRefreshPost
  | pdfRefreshPre
  | pidFile
  | proxy
  | proxyHostnameEdit
  | proxySSL
  | radiusRetry
  | redirectSafe
  | referer
  | rejectIP
  | remoteIPHeader
  | remoteIPInternalProxy
  | remoteIPTrustedProxy
  | remoteTimeout
  | replace
  | runAs
  | shibbolethDisable
  | shibbolethMetadata
  | skipPort
  | spuEdit
  | spuEditVar
  | sqLiteTempDir
  | sslCipherSuite
  | sslHonorCipherOrder
  | sslOpenSSLConfCmd
  | ssoUsername
  | title
  | tokenKey
  | tokenSignatureKey
  | uMask
  | url
  | urlAppendEncoded
  | urlRedirect
  | urlRedirectAppend
  | urlRedirectAppendEncoded
  | usageLimit
  | validate
  | xDebug
  deriving DecidableEq, Repr

namespace Directive

def label : Directive → String
  | .addUserHeader => "AddUserHeader"
  | .allowIP => "AllowIP"
  | .allowVars => "AllowVars"
  | .anonymousURL => "AnonymousURL"
  | .audit => "Audit"
  | .auditPurge => "AuditPurge"
  | .autoLoginIP => "AutoLoginIP"
  | .autoLoginIPBanner => "AutoLoginIPBanner"
  | .binaryTimeout => "BinaryTimeout"
  | .books24x7Site => "Books24x7Site"
  | .byteServe => "ByteServe"
  | .casServiceURL => "CASServiceURL"
  | .chargeSetLatency => "ChargeSetLatency"
  | .charset => "Charset"
  | .clientTimeout => "ClientTimeout"
  | .connectWindow => "ConnectWindow"
  | .cookie => "Cookie"
  | .cookieFilter => "CookieFilter"
  | .dbVar => "DbVar"
  | .dbVar0 => "DbVar0"
  | .dbVar1 => "DbVar1"
  | .dbVar2 => "DbVar2"
  | .dbVar3 => "DbVar3"
  | .dbVar4 => "DbVar4"
  | .dbVar5 => "DbVar5"
  | .dbVar6 => "DbVar6"
  | .dbVar7 => "DbVar7"
  | .dbVar8 => "DbVar8"
  | .dbVar9 => "DbVar9"
  | .denyIfRequestHeader => "DenyIfRequestHeader"
  | .description => "Description"
  | .dns => "DNS"
  | .domain => "Domain"
  | .domainJavaScript => "DomainJavaScript"
  | .eblSecret => "EBLSecret"
  | .ebrarySite => "ebrarySite"
  | .encryptVar => "EncryptVar"
  | .excludeIP => "ExcludeIP"
  | .excludeIPBanner => "ExcludeIPBanner"
  | .extraLoginCookie => "ExtraLoginCookie"
  | .find => "Find"
  | .firstPort => "FirstPort"
  | .formSelect => "FormSelect"
  | .formSubmit => "FormSubmit"
  | .formVariable => "FormVariable"
  | .gartner => "Gartner"
  | .group => "Group"
  | .haName => "HAName"
  | .haPeer => "HAPeer"
  | .host => "Host"
  | .hostJavaScript => "HostJavaScript"
  | .httpHeader => "HTTPHeader"
  | .httpMethod => "HTTPMethod"
  | .identifier => "Identifier"
  | .includeFile => "IncludeFile"
  | .includeIP => "IncludeIP"
  | .interface => "Interface"
  | .intruderIPAttempts => "IntruderIPAttempts"
  | .intruderLog => "IntruderLog"
  | .intruderUserAttempts => "IntruderUserAttempts"
  | .intrusionAPI => "IntrusionAPI"
  | .lbPeer => "LBPeer"
  | .location => "Location"
  | .logFile => "LogFile"
  | .logFilter => "LogFilter"
  | .logFormat => "LogFormat"
  | .loginCookieDomain => "LoginCookieDomain"
  | .loginCookieName => "LoginCookieName"
  | .loginMenu => "LoginMenu"
  | .loginPort => "LoginPort"
  | .loginPortSSL => "LoginPortSSL"
  | .logSPU => "LogSPU"
  | .maxConcurrentTransfers => "MaxConcurrentTransfers"
  | .maxLifetime => "MaxLifetime"
  | .maxSessions => "MaxSessions"
  | .maxVirtualHosts => "MaxVirtualHosts"
  | .messagesFile => "MessagesFile"
  | .metaFind => "MetaFind"
  | .mimeFilter => "MimeFilter"
  | .name => "Name"
  | .neverProxy => "NeverProxy"
  | .optionAcceptXForwardedFor => "Option AcceptX-Forwarded-For"
  | .optionAllowSendGZip => "Option AllowSendGZip"
  | .optionAllowWebSubdirectories => "Option AllowWebSubdirectories"
  | .optionAnyDNSHostname => "Option AnyDNSHostname"
  | .optionBlockCountryChange => "Option BlockCountryChange"
  | .optionCookie => "Option Cookie"
  | .optionCookiePassThrough => "Option CookiePassThrough"
  | .optionCSRFToken => "Option CSRFToken"
  | .optionDisableSSL40bit => "Option DisableSSL40bit"
  | .optionDisableSSL56bit => "Option DisableSSL56bit"
  | .optionDisableSSLv2 => "Option DisableSSLv2"
  | .optionDomainCookieOnly => "Option DomainCookieOnly"
  | .optionEbraryUnencodedTokens => "Option ebraryUnencodedTokens"
  | .optionExcludeIPMenu => "Option ExcludeIPMenu"
  | .optionForceHTTPSAdmin => "Option ForceHTTPSAdmin"
  | .optionForceHTTPSLogin => "Option ForceHTTPSLogin"
  | .optionForceWildcardCertificate => "Option ForceWildcardCertificate"
  | .optionHideEZproxy => "Option HideEZproxy"
  | .optionHttpsHyphens => "Option HttpsHyphens"
  | .optionIChooseToUseDomainLinesThatThreatenTheSecurityOfMyNetwork =>
    "Option I choose to use Domain lines that threaten the security of my network"
  | .optionIgnoreWildcardCertificate => "Option IgnoreWildcardCertificate"
  | .optionIPv6 => "Option IPv6"
  | .optionLoginReplaceGroups => "Option LoginReplaceGroups"
  | .optionLogReferer => "Option LogReferer"
  | .optionLogSAML => "Option LogSAML"
  | .optionLogSession => "Option LogSession"
  | .optionLogSPUEdit => "Option LogSPUEdit"
  | .optionLogUser => "Option LogUser"
  | .optionMenuByGroups => "Option MenuByGroups"
  | .optionMetaEZproxyRewriting => "Option MetaEZproxyRewriting"
  | .optionNoCookie => "Option NoCookie"
  | .optionNoHideEZproxy => "Option NoHideEZproxy"
  | .optionNoHttpsHyphens => "Option NoHttpsHyphens"
  | .optionNoMetaEZproxyRewriting => "Option NoMetaEZproxyRewriting"
  | .optionNoProxyFTP => "Option NoProxyFTP"
  | .optionNoUTF16 => "Option NoUTF16"
  | .optionNoXForwardedFor => "Option NoX-Forwarded-For"
  | .optionProxyByHostname => "Option ProxyByHostname"
  | .optionProxyFTP => "Option ProxyFTP"
  | .optionRecordPeaks => "Option RecordPeaks"
  | .optionRedirectUnknown => "Option RedirectUnknown"
  | .optionReferInHostname => "Option ReferInHostname"
  | .optionRelaxedRADIUS => "Option RelaxedRADIUS"
  | .optionRequireAuthenticate => "Option RequireAuthenticate"
  | .optionSafariCookiePatch => "Option SafariCookiePatch"
  | .optionStatusUser => "Option StatusUser"
  | .optionTicketIgnoreExcludeIP => "Option TicketIgnoreExcludeIP"
  | .optionUnsafeRedirectUnknown => "Option UnsafeRedirectUnknown"
  | .optionUsernameCaretN => "Option UsernameCaretN"
  | .optionUTF16 => "Option UTF16"
  | .optionXForwardedFor => "Option X-Forwarded-For"
  | .overDriveSite => "OverDriveSite"
  | .pdfRefresh => "PDFRefresh"
  | .pdfRefreshPost => "PDFRefreshPost"
  | .pdfRefreshPre => "PDFRefreshPre"
  | .pidFile => "PidFile"
  | .proxy => "Proxy"
  | .proxyHostnameEdit => "ProxyHostnameEdit"
  | .proxySSL => "ProxySSL"
  | .radiusRetry => "RADIUSRetry"
  | .redirectSafe => "RedirectSafe"
  | .referer => "Referer"
  | .rejectIP => "RejectIP"
  | .remoteIPHeader => "RemoteIPHeader"
  | .remoteIPInternalProxy => "RemoteIPInternalProxy"
  | .remoteIPTrustedProxy => "RemoteIPTrustedProxy"
  | .remoteTimeout => "RemoteTimeout"
  | .replace => "Replace"
  | .runAs => "RunAs"
  | .shibbolethDisable => "ShibbolethDisable"
  | .shibbolethMetadata => "ShibbolethMetadata"
  | .skipPort => "SkipPort"
  | .spuEdit => "SPUEdit"
  | .spuEditVar => "SPUEditVar"
  | .sqLiteTempDir => "SQLiteTempDir"
  | .sslCipherSuite => "SSLCipherSuite"
  | .sslHonorCipherOrder => "SSLHonorCipherOrder"
  | .sslOpenSSLConfCmd => "SSLOpenSSLConfCmd"
  | .ssoUsername => "SSOUsername"
  | .title => "Title"
  | .tokenKey => "TokenKey"
  | .tokenSignatureKey => "TokenSignatureKey"
  | .uMask => "UMask"
  | .url => "URL"
  | .urlAppendEncoded => "URLAppendEncoded"
  | .urlRedirect => "URLRedirect"
  | .urlRedirectAppend => "URLRedirectAppend"
  | .urlRedirectAppendEncoded => "URLRedirectAppendEncoded"
  | .usageLimit => "UsageLimit"
  | .validate => "Validate"
  | .xDebug => "XDebug"

def all : List Directive := [
  .addUserHeader, .allowIP, .allowVars, .anonymousURL, .audit, .auditPurge, .autoLoginIP,
  .autoLoginIPBanner, .binaryTimeout, .books24x7Site, .byteServe, .casServiceURL,
  .chargeSetLatency, .charset, .clientTimeout, .connectWindow, .cookie, .cookieFilter, .dbVar,
  .dbVar0, .dbVar1, .dbVar2, .dbVar3, .dbVar4, .dbVar5, .dbVar6, .dbVar7, .dbVar8, .dbVar9,
  .denyIfRequestHeader, .description, .dns, .domain, .domainJavaScript, .eblSecret, .ebrarySite,
  .encryptVar, .excludeIP, .excludeIPBanner, .extraLoginCookie, .find, .firstPort, .formSelect,
  .formSubmit, .formVariable, .gartner, .group, .haName, .haPeer, .host, .hostJavaScript,
  .httpHeader, .httpMethod, .identifier, .includeFile, .includeIP, .interface,
  .intruderIPAttempts, .intruderLog, .intruderUserAttempts, .intrusionAPI, .lbPeer, .location,
  .logFile, .logFilter, .logFormat, .loginCookieDomain, .loginCookieName, .loginMenu,
  .loginPort, .loginPortSSL, .logSPU, .maxConcurrentTransfers, .maxLifetime, .maxSessions,
  .maxVirtualHosts, .messagesFile, .metaFind, .mimeFilter, .name, .neverProxy,
  .optionAcceptXForwardedFor, .optionAllowSendGZip, .optionAllowWebSubdirectories,
  .optionAnyDNSHostname, .optionBlockCountryChange, .optionCookie, .optionCookiePassThrough,
  .optionCSRFToken, .optionDisableSSL40bit, .optionDisableSSL56bit, .optionDisableSSLv2,
  .optionDomainCookieOnly, .optionEbraryUnencodedTokens, .optionExcludeIPMenu,
  .optionForceHTTPSAdmin, .optionForceHTTPSLogin, .optionForceWildcardCertificate,
  .optionHideEZproxy, .optionHttpsHyphens,
  .optionIChooseToUseDomainLinesThatThreatenTheSecurityOfMyNetwork,
  .optionIgnoreWildcardCertificate, .optionIPv6, .optionLoginReplaceGroups, .optionLogReferer,
  .optionLogSAML, .optionLogSession, .optionLogSPUEdit, .optionLogUser, .optionMenuByGroups,
  .optionMetaEZproxyRewriting, .optionNoCookie, .optionNoHideEZproxy, .optionNoHttpsHyphens,
  .optionNoMetaEZproxyRewriting, .optionNoProxyFTP, .optionNoUTF16, .optionNoXForwardedFor,
  .optionProxyByHostname, .optionProxyFTP, .optionRecordPeaks, .optionRedirectUnknown,
  .optionReferInHostname, .optionRelaxedRADIUS, .optionRequireAuthenticate,
  .optionSafariCookiePatch, .optionStatusUser, .optionTicketIgnoreExcludeIP,
  .optionUnsafeRedirectUnknown, .optionUsernameCaretN, .optionUTF16, .optionXForwardedFor,
  .overDriveSite, .pdfRefresh, .pdfRefreshPost, .pdfRefreshPre, .pidFile, .proxy,
  .proxyHostnameEdit, .proxySSL, .radiusRetry, .redirectSafe, .referer, .rejectIP,
  .remoteIPHeader, .remoteIPInternalProxy, .remoteIPTrustedProxy, .remoteTimeout, .replace,
  .runAs, .shibbolethDisable, .shibbolethMetadata, .skipPort, .spuEdit, .spuEditVar,
  .sqLiteTempDir, .sslCipherSuite, .sslHonorCipherOrder, .sslOpenSSLConfCmd, .ssoUsername,
  .title, .tokenKey, .tokenSignatureKey, .uMask, .url, .urlAppendEncoded, .urlRedirect,
  .urlRedirectAppend, .urlRedirectAppendEncoded, .usageLimit, .validate, .xDebug]

def aliases : List (String × Directive) := [
  ("A", .autoLoginIP), ("D", .domain), ("DJ", .domainJavaScript), ("E", .excludeIP), ("H",
  .host), ("HJ", .hostJavaScript), ("I", .includeIP), ("MC", .maxConcurrentTransfers), ("ML",
  .maxLifetime), ("MS", .maxSessions), ("MV", .maxVirtualHosts), ("PHE", .proxyHostnameEdit),
  ("PIDFile", .pidFile), ("T", .title), ("U", .url)]

/-- The options that open a section, each with the one that closes it. -/
def optionPairs : List (Directive × Directive) := [
  (.optionDomainCookieOnly, .optionCookie),
  (.optionNoCookie, .optionCookie),
  (.optionCookiePassThrough, .optionCookie),
  (.optionHideEZproxy, .optionNoHideEZproxy),
  (.optionNoHttpsHyphens, .optionHttpsHyphens),
  (.optionMetaEZproxyRewriting, .optionNoMetaEZproxyRewriting),
  (.optionProxyFTP, .optionNoProxyFTP),
  (.optionUTF16, .optionNoUTF16),
  (.optionXForwardedFor, .optionNoXForwardedFor)]

/-- The label, or `Undefined` where no directive has been read yet. -/
def labelOf : Option Directive → String
  | some d => d.label
  | none => "Undefined"

def isDbVar (d : Directive) : Bool :=
  [dbVar, dbVar0, dbVar1, dbVar2, dbVar3, dbVar4, dbVar5, dbVar6, dbVar7, dbVar8, dbVar9].contains d

def requiredCloser? (d : Directive) : Option Directive := optionPairs.lookup d

def isOpener (d : Directive) : Bool := d.requiredCloser?.isSome

def isCloser (d : Directive) : Bool := optionPairs.any (·.2 == d)

def spellings : List (String × Directive) := all.map (fun d => (d.label, d)) ++ aliases

inductive Match where
  | exact (d : Directive)
  | wrongCase (d : Directive)
  deriving DecidableEq, Repr

def Match.directive : Match → Directive
  | .exact d | .wrongCase d => d

def findAnyCase? (label : String) : Option Directive :=
  let lower := Text.lowercase label
  (spellings.find? fun (spelling, _) => Text.lowercase spelling == lower).map (·.2)

def find? (label : String) : Option Match :=
  match spellings.lookup label with
  | some d => some (.exact d)
  | none => (findAnyCase? label).map .wrongCase

end Directive

end StanzaLint
