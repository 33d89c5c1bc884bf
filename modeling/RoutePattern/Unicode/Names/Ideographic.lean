import RoutePattern.Unicode.NameRun

/-!
# Character names: ideographic scripts

Names of Bamum, Tangut components, Khitan, Nushu and their neighbours.
-/
namespace RoutePattern.Unicode

/-- The names of the characters from `0x16800` to `0x1BCA3`. -/
def ideographicNames : List NameRun :=
  [⟨0x16800,
    ["aBAMUM LETTER PHASE-A NGKUE MFONeGBIEE FONePON MFON PIPAEMGBIEEgPIPAEMBAeNAA MFON",
     "eSHUENSHUETeTITA MFONeNZA MFONeSHINDA PA NJIePON PA NJI PIPAEMGBIEEhPIPAEMBAeMAEMBGBIEE",
     "eTU MAEMBAeNGANGUeMAEMVEUXeMANSUAEeMVEUAENGAMeSEUNYAMeNTOQPENeKEUKEUTNDAeNKINDIeSUU",
     "eNGKUENZEUMeLAPAQeLET KUTeNTAP MFAAeMAEKEUPePASHAEeGHEUAERAEePAMSHAEeMON NGGEUAET",
     "eNZUN MEUTeU YUQ NAEeGHEUAEGHEUAEeNTAP NTAAeSISAeMGBASAeMEUNJOMNDEUQeMOOMPUQeKAFA",
     "ePA LEERAEWAeNDA LEERAEWAePETeMAEMKPENeNIKAePUPeTUAEPeLUAEPeSONJAMeTEUTEUWENeMAENYIeKET",
     "eNDAANGGEUAETeKUOQeMOOMEUTeSHUMeLOMMAEeFIRIeROMeKPOQeSOQeMAP PIEETeSHIRAEeNTAP",
     "eSHOQ NSHUT YUMeNYIT MONGKEUAEQePAARAEeNKAARAEeUNKNOWNeNGGENeMAESIeNJAMeMBANYIeNYETeTEUAEN",
     "eSOTePAAMeNSHIEEeMAEMeNYIeKAQeNSHAeVEEeLUeNENeNAQeMBAQdB NSHUETeTU MAEMGBIEEeSIEEeSET TU",
     "eLOM NTEUMeMBA MAELEEeKIEEMeYEURAEeMBAARAEeKAMePEESHIeYAFU LEERAEWAeLAM NSHUT NYAM",
     "eNTIEE SHEUOQeNDU NJAAeGHEUGHEUAEMePITeTU NSIEEeSHET NJAQeSHEUAEQTUeMFON TEUAEQ",
     "eMBIT MBAAKETeNYI NTEUMeKEUPUQeGHEUGHENeKEUYEUXeLAANAEePARUMeVEUMeNGKINDI MVOPeNGGEU MBU",
     "eWUAETeSAKEUAEeTAAMeMEUQeNGGUOQeNGGUOQ LARGEeMFIYAQeSUEeMBEURIeMONTIEENeNYAEMAEePUNGAAM",
     "eMEUT NGGEETeFEUXeMBUOQeFEEeKEUAEMeMA NJEUAENAfNJUQAeLETeNGGAAMeNSENeMAeKIQeNGOM",
     "dC NGKUE MAEMBAeNZAeYUMeWANGKUOQeNGGENeNDEUAEREEeNGKAQeGHARAEeMBEEKEETeGBAYI",
     "eNYIR MKPARAQ MEUNeNTU MBITeMBEUMePIRIEENeNDOMBUeMBAA CABBAGE-TREEeKEUSHEUAEPeGHAPeKEUKAQ",
     "eYU MUOMAEeNZEUMeMBUEeNSEUAENeMBITeYEUQeKPARAQeKAAeSEUXeNDIDAeTAASHAEeNJUEQeTITA YUEeSUAET",
     "eNGGUAEN NYAMeVEUXeNANSANAQeMA KEUAERIeNTAAeNGGUONeLAPeMBIRIEENeMGBASAQeNTEUNGBAeTEUTEUX",
     "eNGGUMeFUEeNDEUTeNSAeNSHAQeBUNGeVEUAEPENeMBERAEeRUeNJAEMeLAMeTITUAEPeNSUOT NGOMeNJEEEEeKET",
     "eNGGUeMAESIeMBUAEMeLUeKUTeNJAMeNGOMeWUPeNGGUEETeNSOMeNTENeKUOP NKAARAEeNSUNeNDAMeMA NSIEE",
     "eYAAeNDAPeSHUEQeSETFONeMBIeMAEMBAeMBANYIeKEUSEUXeMBEUXeKEUMeMBAA PICKETeYUWOQeNJEUXeMIEE",
     "eMUAEeSHIQeKEN LAWfFATIGUEeNGAQeNAQeLIQePINePENeTETdD MBUOeWAPeNJIeMFONeNJIEEeLIEEeNJEUT",
     "eNSHEEeNGGAAMAEeNYAMeWUAENeNGKUNeSHEEeNGKAPeKEUAETMEUNeTEUTeSHEUAEeNJAPeSUEeKETeYAEMMAE",
     "eKUOMeSAPeMFEUTeNDEUXeMALEERIeMEUTeSEUAEQeYENeNJEUAEMeKEUOT MBUAEeNGKEURIeTUeGHAAeNGKYEE",
     "eFEUFEUAETeNDEEeMGBOFUMeLEUAEPeNDONeMONIeMGBEUNePUUTeMGBIEEeMFOeLUMeNSIEEPeMBAAeKWAETeNYET",
     "eTEUAENeSOTeYUWOQeKEUMeRAEMeTEEEEeNGKEUAEQeMFEUAEeNSIEETeKEUPePIPePEUTAEeNYUEeLETeNGGAAM",
     "eMFIEEeNGGWAENeYUOMePAPeYUOPeNDAMeNTEUMeSUAEeKUNeNGGEUXeNGKIEEeTUOTeMEUNeKUQeNSUMeTEUN",
     "eMAENJETeNGGAPeLEUMeNGGUOMeNSHUTeNJUEQeGHEUAEeKUeREN OLDeTAEeTOQeNYIeRIIeLEEEEeMEEEEeMeSUU",
     "eMUeSHIIeSHEUXeKYEEeNUeSHUeNTEEePEEeNIeSHOQePUQeMVOPeLOQeREN MUCHeTIeNTUUeMBAA SEVENeSAQ",
     "eFAAdE NDAPeTOONeMBEUMeLAPeVOMeLOONePAAeSOMeRAQeNSHUOPeNDUNePUAEeTAMeNGKAeKPEUXeWUOeSEE",
     "eNGGEUAETePAAMeTOOeKUOPeLOMeNSHIEEeNGOPeMAEMeNGKEUXeNGOQeNSHUEeRIMGBAeNJEUXePEEMeSAA",
     "eNGGURAEeMGBAeGHEUXeNGKEUAEMeNJAEMLIeMAPeLOOTeNGGEEEEeNDIQeTAEN NTEUMeSETePUM",
     "eNDAA SOFTNESSeNGGUAESHAE NYAMeYIEEeGHEUNeTUAEeYEUAEePOeTUMAEeKEUAEeSUAENeTEUAEQeVEUAE",
     "eWEUXeLAAMePUeTAAQeGHAAMAEeNGEUREUTeSHEUAEQeMGBENeMBEEeNZAQeNKOMeGBETeTUMeKUETeYAP",
     "eNYI CLEAVEReYITeMFEUQeNDIAQePIEEQeYUEQeLEUAEMeFUEeGBEUXeNGKUPeKETeMAEeNGKAAMIeGHETeFA",
     "eNTUMePEUTeYEUMeNGGEUAEeNYI BETWEENeNZUQePOONeMIEEeFUETeNAEeMUAEeGHEUAEeFU IeMVIePUAQ",
     "eNGKUMeKUTePIETeNTAPeYEUAETeNGGUPePA PEOPLEeFU CALLeFOMeNJEEeAeTOQeOeIeLAQePA PLURALeTAA",
     "eTAQeNDAA MY HOUSEeSHIQeYEUXeNGUAEeYUAENeYOQ SWIMMINGfCOVEReYUQeYUNeKEUXePEUXeNJEE EPOCH",
     "ePUEeWUEeFEEeVEEeLUeMIeREUXeRAEeNGUAETeNGAeSHOeSHOQeFU REMEDYeNAePIeLOQeKOeMENeMAeMAQeTEU",
     "eKIeMONeTENeFAQeGHOMdF KAeUeKUeEEeREEeTAEeNYIeLAeRIIeRIEEeMEEEEeTAAeNDAAeNJAEMeMeSUUeSHII",
     "eSIeSEUXeKYEEeKETeNUAEeNUeNJUAEeYOQeSHUeYAeNSHAePEUXeNTEEeWUEePEEeRUeNIeREUXeKENeNGKWAEN",
     "eNGGAeSHOePUAEeFOMeWAeLIeLOQeKOeMBENeRENeMAeMOeMBAAeTETeKPAeSAMBAeVUEQ"]⟩,
   ⟨0x16A40,
    ["aMRO LETTER TAcNGIcYOcMIMcBAcDAcAcPHIcKHAIcHAOcDAIcCHUcKEAAEcOLcMAEMcNINcPAcOOcOcROcSHI",
     "cTHEAcEAcWAcEcKOcLANcLAcHAIcRIcTEK"]⟩,
   ⟨0x16A60, ["aMRO DIGIT ZEROcONEcTWOcTHREEcFOURcFIVEcSIXcSEVENcEIGHTcNINE"]⟩,
   ⟨0x16A6E,
    ["aMRO DANDAbDOUBLE DANDAaTANGSA LETTER OZcOCcOQcOXcAZcACcAQcAXcVZcVCcVQcVXcEZcECcEQcEXcIZ",
     "cICcIQcIXcUZcUCcUQcUXcAWZcAWCcAWQcAWXcUIZcUICcUIQcUIXcFINAL NGcLONG UEXcSHORT UEZdAWXcUEC",
     "cUEZcUEQcUEXcUIUZcUIUCcUIUQcUIUXcMZcMCcMQcMXcKAcKHAcGAcNGAcSAcYAcWAcPAcNYAcPHAcBAcMAcNAcHA",
     "cLAcHTAcTAcDAcRAcNHAcSHAcCAcTSAcGHAcHTTAcTHAcXAcFAcDHAcCHAcZA"]⟩,
   ⟨0x16AC0, ["aTANGSA DIGIT ZEROcONEcTWOcTHREEcFOURcFIVEcSIXcSEVENcEIGHTcNINE"]⟩,
   ⟨0x16AD0,
    ["aBASSA VAH LETTER ENNIdKAdSEdFAdMBEdYIEdGAHdDHIIdKPAHdJOdHWAHdWAdZOdGBUdDOdCEdUWUdTOdBAdVU",
     "dYEINdPAdWADDAdAdOdOOdUdEEdEdI"]⟩,
   ⟨0x16AF0,
    ["aBASSA VAH COMBINING HIGH TONEdLOW TONEdMID TONEdLOW-MID TONEdHIGH-LOW TONEcFULL STOP"]⟩,
   ⟨0x16B00,
    ["aPAHAWH HMONG VOWEL KEEBdKEEVdKIBdKIVdKAUBdKAUVdKUBdKUVdKEBdKEVdKAIBdKAIVdKOOBdKOOVdKAWB",
     "dKAWVdKUABdKUAVdKOBdKOVdKIABdKIAVdKABdKAVdKWBdKWVdKAABdKAAVcCONSONANT VAUdNTSAUdLAUdHAU",
     "dNLAUdRAUdNKAUdQHAUdYAUdHLAUdMAUdCHAUdNCHAUdHNAUdPLHAUdNTHAUdNAUdAUdXAUdCAUcMARK CIM TUB",
     "eSOeKESeKHAVeSUAMeHOMeTAUMcSIGN VOS THOMeTSHAB CEEBdCIM CHEEMdVOS THIABeFEEMdXYEEM NTXIV",
     "eRHOeTOVeFAIBdVOS SEEVdMEEJ SUABdVOS NRUAdIB YAMdXAUSdCIM TSOV ROG"]⟩,
   ⟨0x16B50, ["aPAHAWH HMONG DIGIT ZEROdONEdTWOdTHREEdFOURdFIVEdSIXdSEVENdEIGHTdNINE"]⟩,
   ⟨0x16B5B,
    ["aPAHAWH HMONG NUMBER TENSdHUNDREDSdTEN THOUSANDSdMILLIONSdHUNDRED MILLIONSdTEN BILLIONS",
     "dTRILLIONS"]⟩,
   ⟨0x16B63,
    ["aPAHAWH HMONG SIGN VOS LUBdXYOOdHLIdTHIRD-STAGE HLIdZWJ THAJdHNUBdNQIGdXIABdNTUJdAV",
     "dTXHEEJ CEEVdMEEJ TSEEBdTAUdLOSdMUSdCIM HAIS LUS NTOG NTOGeCUAM TSHOOJeTXWVeTXWV CHWV",
     "ePUB DAWBeNRES TOS"]⟩,
   ⟨0x16B7D,
    ["aPAHAWH HMONG CLAN SIGN TSHEEJeYEEGeLISeLAUJeXYOOJeKOOeHAWJeMUASeTHOJeTSABePHABeKHABeHAM",
     "eVAJeFAJeYAJeTSWBeKWMeVWJ"]⟩,
   ⟨0x16E40,
    ["aMEDEFAIDRIN CAPITAL LETTER MdSdVdWdATIUdZdKPdPdTdGdFdIdKdAdJdEdBdCdUdYUdLdQdHPdNYdXdDdOE",
     "dNdRdOdAIdYbSMALL LETTER MdSdVdWdATIUdZdKPdPdTdGdFdIdKdAdJdEdBdCdUdYUdLdQdHPdNYdXdDdOEdNdR",
     "dOdAIdYbDIGIT ZEROcONEcTWOcTHREEcFOURcFIVEcSIXcSEVENcEIGHTcNINEbNUMBER TENcELEVENcTWELVE",
     "cTHIRTEENcFOURTEENcFIFTEENcSIXTEENcSEVENTEENcEIGHTEENcNINETEENbDIGIT ONE ALTERNATE FORM",
     "cTWO ALTERNATE FORMcTHREE ALTERNATE FORMbCOMMAbFULL STOPbSYMBOL AIVAbEXCLAMATION OH"]⟩,
   ⟨0x16F00,
    ["aMIAO LETTER PAcBAcYI PAcPLAcMAcMHAcARCHAIC MAcFAcVAcVFAcTAcDAcYI TTAdTAcTTAcDDAcNAcNHA",
     "cYI NNAcARCHAIC NAcNNAcNNHAcLAcLYAcLHAcLHYAcTLHAcDLHAcTLHYAcDLHYAcKAcGAcYI KAcQAcQGAcNGA",
     "cNGHAcARCHAIC NGAcHAcXAcGHAcGHHAcTSSAcDZZAcNYAcNYHAcTSHAcDZHAcYI TSHAdDZHAcREFORMED TSHA",
     "cSHAcSSAcZHAcZSHAcTSAcDZAcYI TSAcSAcZAcZSAcZZAcZZSAcARCHAIC ZZAcZZYAcZZSYAcWAcAHcHHAcBRI",
     "cSYIcDZYIcTEcTSEcRTE"]⟩,
   ⟨0x16F4F,
    ["aMIAO SIGN CONSONANT MODIFIER BARbLETTER NASALIZATIONbSIGN ASPIRATIONcREFORMED VOICING",
     "dASPIRATIONbVOWEL SIGN AdAAdAHHdANdANGdOdOOdWOdWdEdENdENGdOEYdIdIAdIANdIANGdIOdIEdIIdIU",
     "dINGdUdUAdUANdUANGdUUdUEIdUNGdYdYIdAEdAEEdERRdROUNDED ERRdERdROUNDED ERdAIdEIdAUdOUdNdNG",
     "dUOGdYUIdOGdOERdVWdIGdEAdIONGdUI"]⟩,
   ⟨0x16F8F,
    ["aMIAO TONE RIGHTcTOP RIGHTcABOVEcBELOWbLETTER TONE-2d3d4d5d6d7d8cREFORMED TONE-1e2e4e5e6e8"]⟩,
   ⟨0x16FE0,
    ["aTANGUT ITERATION MARKaNUSHU ITERATION MARKaOLD CHINESE HOOK MARKcITERATION MARK",
     "aKHITAN SMALL SCRIPT FILLER"]⟩,
   ⟨0x16FF0, ["aVIETNAMESE ALTERNATE READING MARK CAeNHAY"]⟩,
   ⟨0x18800,
    ["aTANGUT COMPONENT-001c002c003c004c005c006c007c008c009c010c011c012c013c014c015c016c017c018",
     "c019c020c021c022c023c024c025c026c027c028c029c030c031c032c033c034c035c036c037c038c039c040",
     "c041c042c043c044c045c046c047c048c049c050c051c052c053c054c055c056c057c058c059c060c061c062",
     "c063c064c065c066c067c068c069c070c071c072c073c074c075c076c077c078c079c080c081c082c083c084",
     "c085c086c087c088c089c090c091c092c093c094c095c096c097c098c099c100c101c102c103c104c105c106",
     "c107c108c109c110c111c112c113c114c115c116c117c118c119c120c121c122c123c124c125c126c127c128",
     "c129c130c131c132c133c134c135c136c137c138c139c140c141c142c143c144c145c146c147c148c149c150",
     "c151c152c153c154c155c156c157c158c159c160c161c162c163c164c165c166c167c168c169c170c171c172",
     "c173c174c175c176c177c178c179c180c181c182c183c184c185c186c187c188c189c190c191c192c193c194",
     "c195c196c197c198c199c200c201c202c203c204c205c206c207c208c209c210c211c212c213c214c215c216",
     "c217c218c219c220c221c222c223c224c225c226c227c228c229c230c231c232c233c234c235c236c237c238",
     "c239c240c241c242c243c244c245c246c247c248c249c250c251c252c253c254c255c256c257c258c259c260",
     "c261c262c263c264c265c266c267c268c269c270c271c272c273c274c275c276c277c278c279c280c281c282",
     "c283c284c285c286c287c288c289c290c291c292c293c294c295c296c297c298c299c300c301c302c303c304",
     "c305c306c307c308c309c310c311c312c313c314c315c316c317c318c319c320c321c322c323c324c325c326",
     "c327c328c329c330c331c332c333c334c335c336c337c338c339c340c341c342c343c344c345c346c347c348",
     "c349c350c351c352c353c354c355c356c357c358c359c360c361c362c363c364c365c366c367c368c369c370",
     "c371c372c373c374c375c376c377c378c379c380c381c382c383c384c385c386c387c388c389c390c391c392",
     "c393c394c395c396c397c398c399c400c401c402c403c404c405c406c407c408c409c410c411c412c413c414",
     "c415c416c417c418c419c420c421c422c423c424c425c426c427c428c429c430c431c432c433c434c435c436",
     "c437c438c439c440c441c442c443c444c445c446c447c448c449c450c451c452c453c454c455c456c457c458",
     "c459c460c461c462c463c464c465c466c467c468c469c470c471c472c473c474c475c476c477c478c479c480",
     "c481c482c483c484c485c486c487c488c489c490c491c492c493c494c495c496c497c498c499c500c501c502",
     "c503c504c505c506c507c508c509c510c511c512c513c514c515c516c517c518c519c520c521c522c523c524",
     "c525c526c527c528c529c530c531c532c533c534c535c536c537c538c539c540c541c542c543c544c545c546",
     "c547c548c549c550c551c552c553c554c555c556c557c558c559c560c561c562c563c564c565c566c567c568",
     "c569c570c571c572c573c574c575c576c577c578c579c580c581c582c583c584c585c586c587c588c589c590",
     "c591c592c593c594c595c596c597c598c599c600c601c602c603c604c605c606c607c608c609c610c611c612",
     "c613c614c615c616c617c618c619c620c621c622c623c624c625c626c627c628c629c630c631c632c633c634",
     "c635c636c637c638c639c640c641c642c643c644c645c646c647c648c649c650c651c652c653c654c655c656",
     "c657c658c659c660c661c662c663c664c665c666c667c668c669c670c671c672c673c674c675c676c677c678",
     "c679c680c681c682c683c684c685c686c687c688c689c690c691c692c693c694c695c696c697c698c699c700",
     "c701c702c703c704c705c706c707c708c709c710c711c712c713c714c715c716c717c718c719c720c721c722",
     "c723c724c725c726c727c728c729c730c731c732c733c734c735c736c737c738c739c740c741c742c743c744",
     "c745c746c747c748c749c750c751c752c753c754c755c756c757c758c759c760c761c762c763c764c765c766",
     "c767c768aKHITAN SMALL SCRIPT CHARACTER-18B00e18B01e18B02e18B03e18B04e18B05e18B06e18B07",
     "e18B08e18B09e18B0Ae18B0Be18B0Ce18B0De18B0Ee18B0Fe18B10e18B11e18B12e18B13e18B14e18B15e18B16",
     "e18B17e18B18e18B19e18B1Ae18B1Be18B1Ce18B1De18B1Ee18B1Fe18B20e18B21e18B22e18B23e18B24e18B25",
     "e18B26e18B27e18B28e18B29e18B2Ae18B2Be18B2Ce18B2De18B2Ee18B2Fe18B30e18B31e18B32e18B33e18B34",
     "e18B35e18B36e18B37e18B38e18B39e18B3Ae18B3Be18B3Ce18B3De18B3Ee18B3Fe18B40e18B41e18B42e18B43",
     "e18B44e18B45e18B46e18B47e18B48e18B49e18B4Ae18B4Be18B4Ce18B4De18B4Ee18B4Fe18B50e18B51e18B52",
     "e18B53e18B54e18B55e18B56e18B57e18B58e18B59e18B5Ae18B5Be18B5Ce18B5De18B5Ee18B5Fe18B60e18B61",
     "e18B62e18B63e18B64e18B65e18B66e18B67e18B68e18B69e18B6Ae18B6Be18B6Ce18B6De18B6Ee18B6Fe18B70",
     "e18B71e18B72e18B73e18B74e18B75e18B76e18B77e18B78e18B79e18B7Ae18B7Be18B7Ce18B7De18B7Ee18B7F",
     "e18B80e18B81e18B82e18B83e18B84e18B85e18B86e18B87e18B88e18B89e18B8Ae18B8Be18B8Ce18B8De18B8E",
     "e18B8Fe18B90e18B91e18B92e18B93e18B94e18B95e18B96e18B97e18B98e18B99e18B9Ae18B9Be18B9Ce18B9D",
     "e18B9Ee18B9Fe18BA0e18BA1e18BA2e18BA3e18BA4e18BA5e18BA6e18BA7e18BA8e18BA9e18BAAe18BABe18BAC",
     "e18BADe18BAEe18BAFe18BB0e18BB1e18BB2e18BB3e18BB4e18BB5e18BB6e18BB7e18BB8e18BB9e18BBAe18BBB",
     "e18BBCe18BBDe18BBEe18BBFe18BC0e18BC1e18BC2e18BC3e18BC4e18BC5e18BC6e18BC7e18BC8e18BC9e18BCA",
     "e18BCBe18BCCe18BCDe18BCEe18BCFe18BD0e18BD1e18BD2e18BD3e18BD4e18BD5e18BD6e18BD7e18BD8e18BD9",
     "e18BDAe18BDBe18BDCe18BDDe18BDEe18BDFe18BE0e18BE1e18BE2e18BE3e18BE4e18BE5e18BE6e18BE7e18BE8",
     "e18BE9e18BEAe18BEBe18BECe18BEDe18BEEe18BEFe18BF0e18BF1e18BF2e18BF3e18BF4e18BF5e18BF6e18BF7",
     "e18BF8e18BF9e18BFAe18BFBe18BFCe18BFDe18BFEe18BFFe18C00e18C01e18C02e18C03e18C04e18C05e18C06",
     "e18C07e18C08e18C09e18C0Ae18C0Be18C0Ce18C0De18C0Ee18C0Fe18C10e18C11e18C12e18C13e18C14e18C15",
     "e18C16e18C17e18C18e18C19e18C1Ae18C1Be18C1Ce18C1De18C1Ee18C1Fe18C20e18C21e18C22e18C23e18C24",
     "e18C25e18C26e18C27e18C28e18C29e18C2Ae18C2Be18C2Ce18C2De18C2Ee18C2Fe18C30e18C31e18C32e18C33",
     "e18C34e18C35e18C36e18C37e18C38e18C39e18C3Ae18C3Be18C3Ce18C3De18C3Ee18C3Fe18C40e18C41e18C42",
     "e18C43e18C44e18C45e18C46e18C47e18C48e18C49e18C4Ae18C4Be18C4Ce18C4De18C4Ee18C4Fe18C50e18C51",
     "e18C52e18C53e18C54e18C55e18C56e18C57e18C58e18C59e18C5Ae18C5Be18C5Ce18C5De18C5Ee18C5Fe18C60",
     "e18C61e18C62e18C63e18C64e18C65e18C66e18C67e18C68e18C69e18C6Ae18C6Be18C6Ce18C6De18C6Ee18C6F",
     "e18C70e18C71e18C72e18C73e18C74e18C75e18C76e18C77e18C78e18C79e18C7Ae18C7Be18C7Ce18C7De18C7E",
     "e18C7Fe18C80e18C81e18C82e18C83e18C84e18C85e18C86e18C87e18C88e18C89e18C8Ae18C8Be18C8Ce18C8D",
     "e18C8Ee18C8Fe18C90e18C91e18C92e18C93e18C94e18C95e18C96e18C97e18C98e18C99e18C9Ae18C9Be18C9C",
     "e18C9De18C9Ee18C9Fe18CA0e18CA1e18CA2e18CA3e18CA4e18CA5e18CA6e18CA7e18CA8e18CA9e18CAAe18CAB",
     "e18CACe18CADe18CAEe18CAFe18CB0e18CB1e18CB2e18CB3e18CB4e18CB5e18CB6e18CB7e18CB8e18CB9e18CBA",
     "e18CBBe18CBCe18CBDe18CBEe18CBFe18CC0e18CC1e18CC2e18CC3e18CC4e18CC5e18CC6e18CC7e18CC8e18CC9",
     "e18CCAe18CCBe18CCCe18CCDe18CCEe18CCFe18CD0e18CD1e18CD2e18CD3e18CD4e18CD5"]⟩,
   ⟨0x1AFF0, ["aKATAKANA LETTER MINNAN TONE-2e3e4e5"]⟩,
   ⟨0x1AFF5, ["aKATAKANA LETTER MINNAN TONE-7e8dNASALIZED TONE-1f2f3f4f5"]⟩,
   ⟨0x1AFFD, ["aKATAKANA LETTER MINNAN NASALIZED TONE-7f8"]⟩,
   ⟨0x1B000,
    ["aKATAKANA LETTER ARCHAIC EaHIRAGANA LETTER ARCHAIC YEaHENTAIGANA LETTER A-1d2d3dWOcI-1d2d3",
     "d4cU-1d2d3d4d5cE-2d3d4d5d6cO-1d2d3cKA-1d2d3d4d5d6d7d8d9d10d11dKEcKI-1d2d3d4d5d6d7d8cKU-1d2",
     "d3d4d5d6d7cKE-1d2d3d4d5d6cKO-1d2d3dKIcSA-1d2d3d4d5d6d7d8cSI-1d2d3d4d5d6cSU-1d2d3d4d5d6d7d8",
     "cSE-1d2d3d4d5cSO-1d2d3d4d5d6d7cTA-1d2d3d4cTI-1d2d3d4d5d6d7cTU-1d2d3d4dTOcTE-1d2d3d4d5d6d7",
     "d8d9cTO-1d2d3d4d5d6dRAcNA-1d2d3d4d5d6d7d8d9cNI-1d2d3d4d5d6d7dTEcNU-1d2d3cNE-1d2d3d4d5d6dKO",
     "cNO-1d2d3d4d5cHA-1d2d3d4d5d6d7d8d9d10d11cHI-1d2d3d4d5d6d7cHU-1d2d3cHE-1d2d3d4d5d6d7cHO-1d2",
     "d3d4d5d6d7d8cMA-1d2d3d4d5d6d7cMI-1d2d3d4d5d6d7cMU-1d2d3d4cME-1d2dMAcMO-1d2d3d4d5d6cYA-1d2",
     "d3d4d5dYOcYU-1d2d3d4cYO-1d2d3d4d5d6cRA-1d2d3d4cRI-1d2d3d4d5d6d7cRU-1d2d3d4d5d6cRE-1d2d3d4",
     "cRO-1d2d3d4d5d6cWA-1d2d3d4d5cWI-1d2d3d4d5cWE-1d2d3d4cWO-1d2d3d4d5d6d7cN-MU-MO-1f2",
     "aHIRAGANA LETTER ARCHAIC WUaKATAKANA LETTER ARCHAIC YIdYEdWU"]⟩,
   ⟨0x1B150, ["aHIRAGANA LETTER SMALL WIdWEdWO"]⟩,
   ⟨0x1B164, ["aKATAKANA LETTER SMALL WIdWEdWOdN"]⟩,
   ⟨0x1B170,
    ["aNUSHU CHARACTER-1B170c1B171c1B172c1B173c1B174c1B175c1B176c1B177c1B178c1B179c1B17Ac1B17B",
     "c1B17Cc1B17Dc1B17Ec1B17Fc1B180c1B181c1B182c1B183c1B184c1B185c1B186c1B187c1B188c1B189c1B18A",
     "c1B18Bc1B18Cc1B18Dc1B18Ec1B18Fc1B190c1B191c1B192c1B193c1B194c1B195c1B196c1B197c1B198c1B199",
     "c1B19Ac1B19Bc1B19Cc1B19Dc1B19Ec1B19Fc1B1A0c1B1A1c1B1A2c1B1A3c1B1A4c1B1A5c1B1A6c1B1A7c1B1A8",
     "c1B1A9c1B1AAc1B1ABc1B1ACc1B1ADc1B1AEc1B1AFc1B1B0c1B1B1c1B1B2c1B1B3c1B1B4c1B1B5c1B1B6c1B1B7",
     "c1B1B8c1B1B9c1B1BAc1B1BBc1B1BCc1B1BDc1B1BEc1B1BFc1B1C0c1B1C1c1B1C2c1B1C3c1B1C4c1B1C5c1B1C6",
     "c1B1C7c1B1C8c1B1C9c1B1CAc1B1CBc1B1CCc1B1CDc1B1CEc1B1CFc1B1D0c1B1D1c1B1D2c1B1D3c1B1D4c1B1D5",
     "c1B1D6c1B1D7c1B1D8c1B1D9c1B1DAc1B1DBc1B1DCc1B1DDc1B1DEc1B1DFc1B1E0c1B1E1c1B1E2c1B1E3c1B1E4",
     "c1B1E5c1B1E6c1B1E7c1B1E8c1B1E9c1B1EAc1B1EBc1B1ECc1B1EDc1B1EEc1B1EFc1B1F0c1B1F1c1B1F2c1B1F3",
     "c1B1F4c1B1F5c1B1F6c1B1F7c1B1F8c1B1F9c1B1FAc1B1FBc1B1FCc1B1FDc1B1FEc1B1FFc1B200c1B201c1B202",
     "c1B203c1B204c1B205c1B206c1B207c1B208c1B209c1B20Ac1B20Bc1B20Cc1B20Dc1B20Ec1B20Fc1B210c1B211",
     "c1B212c1B213c1B214c1B215c1B216c1B217c1B218c1B219c1B21Ac1B21Bc1B21Cc1B21Dc1B21Ec1B21Fc1B220",
     "c1B221c1B222c1B223c1B224c1B225c1B226c1B227c1B228c1B229c1B22Ac1B22Bc1B22Cc1B22Dc1B22Ec1B22F",
     "c1B230c1B231c1B232c1B233c1B234c1B235c1B236c1B237c1B238c1B239c1B23Ac1B23Bc1B23Cc1B23Dc1B23E",
     "c1B23Fc1B240c1B241c1B242c1B243c1B244c1B245c1B246c1B247c1B248c1B249c1B24Ac1B24Bc1B24Cc1B24D",
     "c1B24Ec1B24Fc1B250c1B251c1B252c1B253c1B254c1B255c1B256c1B257c1B258c1B259c1B25Ac1B25Bc1B25C",
     "c1B25Dc1B25Ec1B25Fc1B260c1B261c1B262c1B263c1B264c1B265c1B266c1B267c1B268c1B269c1B26Ac1B26B",
     "c1B26Cc1B26Dc1B26Ec1B26Fc1B270c1B271c1B272c1B273c1B274c1B275c1B276c1B277c1B278c1B279c1B27A",
     "c1B27Bc1B27Cc1B27Dc1B27Ec1B27Fc1B280c1B281c1B282c1B283c1B284c1B285c1B286c1B287c1B288c1B289",
     "c1B28Ac1B28Bc1B28Cc1B28Dc1B28Ec1B28Fc1B290c1B291c1B292c1B293c1B294c1B295c1B296c1B297c1B298",
     "c1B299c1B29Ac1B29Bc1B29Cc1B29Dc1B29Ec1B29Fc1B2A0c1B2A1c1B2A2c1B2A3c1B2A4c1B2A5c1B2A6c1B2A7",
     "c1B2A8c1B2A9c1B2AAc1B2ABc1B2ACc1B2ADc1B2AEc1B2AFc1B2B0c1B2B1c1B2B2c1B2B3c1B2B4c1B2B5c1B2B6",
     "c1B2B7c1B2B8c1B2B9c1B2BAc1B2BBc1B2BCc1B2BDc1B2BEc1B2BFc1B2C0c1B2C1c1B2C2c1B2C3c1B2C4c1B2C5",
     "c1B2C6c1B2C7c1B2C8c1B2C9c1B2CAc1B2CBc1B2CCc1B2CDc1B2CEc1B2CFc1B2D0c1B2D1c1B2D2c1B2D3c1B2D4",
     "c1B2D5c1B2D6c1B2D7c1B2D8c1B2D9c1B2DAc1B2DBc1B2DCc1B2DDc1B2DEc1B2DFc1B2E0c1B2E1c1B2E2c1B2E3",
     "c1B2E4c1B2E5c1B2E6c1B2E7c1B2E8c1B2E9c1B2EAc1B2EBc1B2ECc1B2EDc1B2EEc1B2EFc1B2F0c1B2F1c1B2F2",
     "c1B2F3c1B2F4c1B2F5c1B2F6c1B2F7c1B2F8c1B2F9c1B2FAc1B2FB"]⟩,
   ⟨0x1BC00,
    ["aDUPLOYAN LETTER HcXcPcTcFcKcLcBcDcVcGcRcP NcD ScF NcK McR ScTHcSLOAN DHcDHcKKcSLOAN JcHL",
     "cLHcRHcMcNcJcScM NcN McJ McS JcM WITH DOTcN WITH DOTcJ WITH DOTeDOTS INSIDE AND ABOVE",
     "cS WITH DOTeDOT BELOWcM ScN ScJ ScS ScM N ScN M ScJ M ScS J ScJ S WITH DOTdNdN ScS TdT RdP",
     "dP RcT SdR ScWcWHcW RcS NdMcK R ScG R ScS KdK RcAcSLOAN OWcOAcOcAOUcIcEcIEcSHORT IcUIcEE",
     "cSLOAN EHcROMANIAN IcSLOAN EEcLONG IcYEcUcEUcXWcU NcLONG UcROMANIAN UcUHcSLOAN UcOOHcOWcOU",
     "cWAcWOcWIcWEIcWOWcNASAL UdOdIdAcPERNIN ANdAMcSLOAN ENdANdONcVOCALIC M"]⟩,
   ⟨0x1BC70,
    ["aDUPLOYAN AFFIX LEFT HORIZONTAL SECANTcMID HORIZONTAL SECANTcRIGHT HORIZONTAL SECANT",
     "cLOW VERTICAL SECANTcMID VERTICAL SECANTcHIGH VERTICAL SECANTcATTACHED SECANT",
     "dLEFT-TO-RIGHT SECANTdTANGENTdTAILdE HOOKdI HOOKdTANGENT HOOK"]⟩,
   ⟨0x1BC80,
    ["aDUPLOYAN AFFIX HIGH ACUTEdTIGHT ACUTEdGRAVEdLONG GRAVEdDOTdCIRCLEdLINEdWAVEdVERTICAL"]⟩,
   ⟨0x1BC90,
    ["aDUPLOYAN AFFIX LOW ACUTEdTIGHT ACUTEdGRAVEdLONG GRAVEdDOTdCIRCLEdLINEdWAVEdVERTICALdARROW"]⟩,
   ⟨0x1BC9C,
    ["aDUPLOYAN SIGN O WITH CROSSbTHICK LETTER SELECTORbDOUBLE MARK",
     "bPUNCTUATION CHINOOK FULL STOPaSHORTHAND FORMAT LETTER OVERLAPcCONTINUING OVERLAP",
     "cDOWN STEPcUP STEP"]⟩]

end RoutePattern.Unicode
