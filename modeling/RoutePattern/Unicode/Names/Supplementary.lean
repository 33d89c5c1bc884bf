import RoutePattern.Unicode.NameRun

/-!
# Character names: supplementary characters

Names of compatibility ideographs of the third plane, tags and variation selectors.
-/
namespace RoutePattern.Unicode

/-- The names of the characters from `0x2F800` to `0xE01EF`. -/
def supplementaryNames : List NameRun :=
  [⟨0x2F800,
    ["aCJK COMPATIBILITY IDEOGRAPH-2F800d2F801d2F802d2F803d2F804d2F805d2F806d2F807d2F808d2F809",
     "d2F80Ad2F80Bd2F80Cd2F80Dd2F80Ed2F80Fd2F810d2F811d2F812d2F813d2F814d2F815d2F816d2F817d2F818",
     "d2F819d2F81Ad2F81Bd2F81Cd2F81Dd2F81Ed2F81Fd2F820d2F821d2F822d2F823d2F824d2F825d2F826d2F827",
     "d2F828d2F829d2F82Ad2F82Bd2F82Cd2F82Dd2F82Ed2F82Fd2F830d2F831d2F832d2F833d2F834d2F835d2F836",
     "d2F837d2F838d2F839d2F83Ad2F83Bd2F83Cd2F83Dd2F83Ed2F83Fd2F840d2F841d2F842d2F843d2F844d2F845",
     "d2F846d2F847d2F848d2F849d2F84Ad2F84Bd2F84Cd2F84Dd2F84Ed2F84Fd2F850d2F851d2F852d2F853d2F854",
     "d2F855d2F856d2F857d2F858d2F859d2F85Ad2F85Bd2F85Cd2F85Dd2F85Ed2F85Fd2F860d2F861d2F862d2F863",
     "d2F864d2F865d2F866d2F867d2F868d2F869d2F86Ad2F86Bd2F86Cd2F86Dd2F86Ed2F86Fd2F870d2F871d2F872",
     "d2F873d2F874d2F875d2F876d2F877d2F878d2F879d2F87Ad2F87Bd2F87Cd2F87Dd2F87Ed2F87Fd2F880d2F881",
     "d2F882d2F883d2F884d2F885d2F886d2F887d2F888d2F889d2F88Ad2F88Bd2F88Cd2F88Dd2F88Ed2F88Fd2F890",
     "d2F891d2F892d2F893d2F894d2F895d2F896d2F897d2F898d2F899d2F89Ad2F89Bd2F89Cd2F89Dd2F89Ed2F89F",
     "d2F8A0d2F8A1d2F8A2d2F8A3d2F8A4d2F8A5d2F8A6d2F8A7d2F8A8d2F8A9d2F8AAd2F8ABd2F8ACd2F8ADd2F8AE",
     "d2F8AFd2F8B0d2F8B1d2F8B2d2F8B3d2F8B4d2F8B5d2F8B6d2F8B7d2F8B8d2F8B9d2F8BAd2F8BBd2F8BCd2F8BD",
     "d2F8BEd2F8BFd2F8C0d2F8C1d2F8C2d2F8C3d2F8C4d2F8C5d2F8C6d2F8C7d2F8C8d2F8C9d2F8CAd2F8CBd2F8CC",
     "d2F8CDd2F8CEd2F8CFd2F8D0d2F8D1d2F8D2d2F8D3d2F8D4d2F8D5d2F8D6d2F8D7d2F8D8d2F8D9d2F8DAd2F8DB",
     "d2F8DCd2F8DDd2F8DEd2F8DFd2F8E0d2F8E1d2F8E2d2F8E3d2F8E4d2F8E5d2F8E6d2F8E7d2F8E8d2F8E9d2F8EA",
     "d2F8EBd2F8ECd2F8EDd2F8EEd2F8EFd2F8F0d2F8F1d2F8F2d2F8F3d2F8F4d2F8F5d2F8F6d2F8F7d2F8F8d2F8F9",
     "d2F8FAd2F8FBd2F8FCd2F8FDd2F8FEd2F8FFd2F900d2F901d2F902d2F903d2F904d2F905d2F906d2F907d2F908",
     "d2F909d2F90Ad2F90Bd2F90Cd2F90Dd2F90Ed2F90Fd2F910d2F911d2F912d2F913d2F914d2F915d2F916d2F917",
     "d2F918d2F919d2F91Ad2F91Bd2F91Cd2F91Dd2F91Ed2F91Fd2F920d2F921d2F922d2F923d2F924d2F925d2F926",
     "d2F927d2F928d2F929d2F92Ad2F92Bd2F92Cd2F92Dd2F92Ed2F92Fd2F930d2F931d2F932d2F933d2F934d2F935",
     "d2F936d2F937d2F938d2F939d2F93Ad2F93Bd2F93Cd2F93Dd2F93Ed2F93Fd2F940d2F941d2F942d2F943d2F944",
     "d2F945d2F946d2F947d2F948d2F949d2F94Ad2F94Bd2F94Cd2F94Dd2F94Ed2F94Fd2F950d2F951d2F952d2F953",
     "d2F954d2F955d2F956d2F957d2F958d2F959d2F95Ad2F95Bd2F95Cd2F95Dd2F95Ed2F95Fd2F960d2F961d2F962",
     "d2F963d2F964d2F965d2F966d2F967d2F968d2F969d2F96Ad2F96Bd2F96Cd2F96Dd2F96Ed2F96Fd2F970d2F971",
     "d2F972d2F973d2F974d2F975d2F976d2F977d2F978d2F979d2F97Ad2F97Bd2F97Cd2F97Dd2F97Ed2F97Fd2F980",
     "d2F981d2F982d2F983d2F984d2F985d2F986d2F987d2F988d2F989d2F98Ad2F98Bd2F98Cd2F98Dd2F98Ed2F98F",
     "d2F990d2F991d2F992d2F993d2F994d2F995d2F996d2F997d2F998d2F999d2F99Ad2F99Bd2F99Cd2F99Dd2F99E",
     "d2F99Fd2F9A0d2F9A1d2F9A2d2F9A3d2F9A4d2F9A5d2F9A6d2F9A7d2F9A8d2F9A9d2F9AAd2F9ABd2F9ACd2F9AD",
     "d2F9AEd2F9AFd2F9B0d2F9B1d2F9B2d2F9B3d2F9B4d2F9B5d2F9B6d2F9B7d2F9B8d2F9B9d2F9BAd2F9BBd2F9BC",
     "d2F9BDd2F9BEd2F9BFd2F9C0d2F9C1d2F9C2d2F9C3d2F9C4d2F9C5d2F9C6d2F9C7d2F9C8d2F9C9d2F9CAd2F9CB",
     "d2F9CCd2F9CDd2F9CEd2F9CFd2F9D0d2F9D1d2F9D2d2F9D3d2F9D4d2F9D5d2F9D6d2F9D7d2F9D8d2F9D9d2F9DA",
     "d2F9DBd2F9DCd2F9DDd2F9DEd2F9DFd2F9E0d2F9E1d2F9E2d2F9E3d2F9E4d2F9E5d2F9E6d2F9E7d2F9E8d2F9E9",
     "d2F9EAd2F9EBd2F9ECd2F9EDd2F9EEd2F9EFd2F9F0d2F9F1d2F9F2d2F9F3d2F9F4d2F9F5d2F9F6d2F9F7d2F9F8",
     "d2F9F9d2F9FAd2F9FBd2F9FCd2F9FDd2F9FEd2F9FFd2FA00d2FA01d2FA02d2FA03d2FA04d2FA05d2FA06d2FA07",
     "d2FA08d2FA09d2FA0Ad2FA0Bd2FA0Cd2FA0Dd2FA0Ed2FA0Fd2FA10d2FA11d2FA12d2FA13d2FA14d2FA15d2FA16",
     "d2FA17d2FA18d2FA19d2FA1Ad2FA1Bd2FA1Cd2FA1D"]⟩,
   ⟨0xE0001, ["aLANGUAGE TAG"]⟩,
   ⟨0xE0020,
    ["aTAG SPACEbEXCLAMATION MARKbQUOTATION MARKbNUMBER SIGNbDOLLAR SIGNbPERCENT SIGNbAMPERSAND",
     "bAPOSTROPHEbLEFT PARENTHESISbRIGHT PARENTHESISbASTERISKbPLUS SIGNbCOMMAbHYPHEN-MINUS",
     "bFULL STOPbSOLIDUSbDIGIT ZEROcONEcTWOcTHREEcFOURcFIVEcSIXcSEVENcEIGHTcNINEbCOLONbSEMICOLON",
     "bLESS-THAN SIGNbEQUALS SIGNbGREATER-THAN SIGNbQUESTION MARKbCOMMERCIAL AT",
     "bLATIN CAPITAL LETTER AeBeCeDeEeFeGeHeIeJeKeLeMeNeOePeQeReSeTeUeVeWeXeYeZ",
     "bLEFT SQUARE BRACKETbREVERSE SOLIDUSbRIGHT SQUARE BRACKETbCIRCUMFLEX ACCENTbLOW LINE",
     "bGRAVE ACCENTbLATIN SMALL LETTER AeBeCeDeEeFeGeHeIeJeKeLeMeNeOePeQeReSeTeUeVeWeXeYeZ",
     "bLEFT CURLY BRACKETbVERTICAL LINEbRIGHT CURLY BRACKETbTILDEaCANCEL TAG"]⟩,
   ⟨0xE0100,
    ["aVARIATION SELECTOR-17c18c19c20c21c22c23c24c25c26c27c28c29c30c31c32c33c34c35c36c37c38c39",
     "c40c41c42c43c44c45c46c47c48c49c50c51c52c53c54c55c56c57c58c59c60c61c62c63c64c65c66c67c68c69",
     "c70c71c72c73c74c75c76c77c78c79c80c81c82c83c84c85c86c87c88c89c90c91c92c93c94c95c96c97c98c99",
     "c100c101c102c103c104c105c106c107c108c109c110c111c112c113c114c115c116c117c118c119c120c121",
     "c122c123c124c125c126c127c128c129c130c131c132c133c134c135c136c137c138c139c140c141c142c143",
     "c144c145c146c147c148c149c150c151c152c153c154c155c156c157c158c159c160c161c162c163c164c165",
     "c166c167c168c169c170c171c172c173c174c175c176c177c178c179c180c181c182c183c184c185c186c187",
     "c188c189c190c191c192c193c194c195c196c197c198c199c200c201c202c203c204c205c206c207c208c209",
     "c210c211c212c213c214c215c216c217c218c219c220c221c222c223c224c225c226c227c228c229c230c231",
     "c232c233c234c235c236c237c238c239c240c241c242c243c244c245c246c247c248c249c250c251c252c253",
     "c254c255c256"]⟩]

end RoutePattern.Unicode
